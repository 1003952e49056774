import UiHarness.Proofs.Json.RoundTrip

/-!
# Reading what was cut off

A text that was written for a value and then cut off before its end is refused, wherever it was cut,
and it is refused for a defect: none of the limits of the reader is met, however long the texts in
the value are and whatever brackets stand in them.

The writing is gone through from left to right, and a cut falls into one of its pieces.  The pieces
before it are read back as they are, and what is left of the piece itself is refused.  Only a cut
inside a string needs an argument of its own: there the reader looks for a quote that ends the
string, and quotes inside it stand behind backslashes.

* `Text.IsCut`: a text that is cut off.
* `Json.Unended`: a text in which no string ends, and `Json.refused_stringTail`.
* `Json.breaks_indented`: a value that is cut off is refused.
* `Json.refused_parse`: so is the whole text of a value.
-/

namespace UiHarness

namespace Text

/-! ## 1.  Cuts -/

/-- A text is cut off before its end. -/
def IsCut (p w : Text) : Prop := p <+: w ∧ p ≠ w

theorem not_isCut_nil (p : Text) : ¬ IsCut p [] := fun h => h.2 (List.prefix_nil.1 h.1)

theorem isCut_cons_iff {c : Char} {p w : Text} :
    IsCut p (c :: w) ↔ p = [] ∨ ∃ q, p = c :: q ∧ IsCut q w := by
  constructor
  · rintro ⟨hp, hne⟩
    rcases List.prefix_cons_iff.1 hp with rfl | ⟨q, rfl, hq⟩
    · exact .inl rfl
    · exact .inr ⟨q, rfl, hq, fun heq => hne (heq ▸ rfl)⟩
  · rintro (rfl | ⟨q, rfl, hq, hne⟩)
    · exact ⟨List.nil_prefix, (List.cons_ne_nil _ _).symm⟩
    · exact ⟨List.cons_prefix_cons.2 ⟨rfl, hq⟩, fun heq => hne (List.cons.inj heq).2⟩

/-- A cut falls into the first part or into the second one. -/
theorem IsCut.append {p a b : Text} (h : IsCut p (a ++ b)) :
    IsCut p a ∨ ∃ q, p = a ++ q ∧ IsCut q b := by
  induction a generalizing p with
  | nil => exact .inr ⟨p, rfl, h⟩
  | cons c a ih =>
    rcases isCut_cons_iff.1 h with rfl | ⟨q, rfl, hq⟩
    · exact .inl (isCut_cons_iff.2 (.inl rfl))
    · rcases ih hq with hin | ⟨q', rfl, hq'⟩
      · exact .inl (isCut_cons_iff.2 (.inr ⟨q, rfl, hin⟩))
      · exact .inr ⟨q', rfl, hq'⟩

/-- A text without its last character. -/
theorem IsCut.concat {p a : Text} {c : Char} (h : IsCut p (a ++ [c])) : p <+: a := by
  rcases h.append with hin | ⟨q, rfl, hq⟩
  · exact hin.1
  · rcases isCut_cons_iff.1 hq with rfl | ⟨q', -, hq'⟩
    · exact ⟨[], by rw [List.append_nil, List.append_nil]⟩
    · exact absurd hq' (not_isCut_nil q')

end Text

namespace Json

open Text

/-- A reading is refused for a defect. -/
def Refused {α : Type} (x : Except Failure α) : Prop := ∃ d rest, x = .error (.defect d rest)

theorem Refused.of_ok {α β : Type} {a : α} {f : α → Except Failure β} (h : Refused (f a)) :
    Refused (.ok a >>= f) := h

theorem Refused.bind {α β : Type} {x : Except Failure α} (h : Refused x)
    (f : α → Except Failure β) : Refused (x >>= f) := by
  obtain ⟨d, rest, rfl⟩ := h
  exact ⟨d, rest, rfl⟩

/-! ## 2.  Strings -/

/-- A text in which a string does not end: each quote stands behind a backslash that does not belong
to another one. -/
inductive Unended : Text → Prop
  | nil : Unended []
  | backslash : Unended ['\\']
  | pair (c : Char) {t : Text} : Unended t → Unended ('\\' :: c :: t)
  | plain {c : Char} {t : Text} : c ≠ '"' → c ≠ '\\' → Unended t → Unended (c :: t)

variable {start t r : Text}

theorem ne_of_isHexDigit {c : Char} (h : Text.isHexDigit c = true) : c ≠ '"' ∧ c ≠ '\\' := by
  constructor
  · rintro rfl
    cases h
  · rintro rfl
    cases h

theorem Unended.tail {c : Char} (h : Unended (c :: t)) (hback : c ≠ '\\') : Unended t := by
  cases h with
  | backslash => exact absurd rfl hback
  | pair _ _ => exact absurd rfl hback
  | plain _ _ ht => exact ht

/-- Hexadecimal digits do not end a string. -/
theorem Unended.of_hex {ds : Text} (h : ∀ c ∈ ds, Text.isHexDigit c = true) :
    Unended (ds ++ t) ↔ Unended t := by
  induction ds with
  | nil => rfl
  | cons c ds ih =>
    rw [List.forall_mem_cons] at h
    obtain ⟨hquote, hback⟩ := ne_of_isHexDigit h.1
    rw [← ih h.2]
    exact ⟨fun hc => hc.tail hback, Unended.plain hquote hback⟩

/-- Four digits that are read stand in front of the rest. -/
theorem of_fourHex? {n : Nat} (h : fourHex? t = some (n, r)) :
    ∃ ds, t = ds ++ r ∧ ∀ c ∈ ds, Text.isHexDigit c = true := by
  unfold fourHex? at h
  split at h
  · rename_i a b c d rest
    split at h
    · rename_i hall
      obtain ⟨-, rfl⟩ := Prod.mk.inj (Option.some.inj h)
      exact ⟨[a, b, c, d], rfl, List.all_eq_true.1 hall⟩
    · cases h
  · cases h

theorem Unended.of_lowUnit? {n : Nat} (ht : Unended t) (h : lowUnit? t = some (n, r)) :
    Unended r := by
  unfold lowUnit? at h
  split at h
  · rename_i rest
    split at h
    · rename_i n' r' hhex
      split at h
      · obtain ⟨-, rfl⟩ := Prod.mk.inj (Option.some.inj h)
        obtain ⟨ds, rfl, hds⟩ := of_fourHex? hhex
        cases ht with
        | pair _ hrest => exact (Unended.of_hex hds).1 hrest
        | plain _ hback _ => exact absurd rfl hback
      · cases h
    · cases h
  · cases h

/-- A character that is written by its units is refused, or what is behind it does not end the
string either. -/
theorem unicodeEscape_of_unended (h : Unended t) : Refused (unicodeEscape ('u' :: t)) ∨
    ∃ c r, unicodeEscape ('u' :: t) = .ok (c, r) ∧ Unended r := by
  unfold unicodeEscape
  rw [List.drop_succ_cons, List.drop_zero]
  split
  · exact .inl ⟨_, _, rfl⟩
  · rename_i n r hhex
    obtain ⟨ds, rfl, hds⟩ := of_fourHex? hhex
    have hr := (Unended.of_hex hds).1 h
    split
    · exact .inl ⟨_, _, rfl⟩
    · split
      · split
        · rename_i low r' hlow
          exact .inr ⟨_, _, rfl, hr.of_lowUnit? hlow⟩
        · exact .inr ⟨_, _, rfl, hr⟩
      · split
        · exact .inr ⟨_, _, rfl, hr⟩
        · exact .inr ⟨_, _, rfl, hr⟩

/-- **A string that does not end is refused.** -/
theorem refused_stringTail {n : Nat} (h : Unended t) : Refused (stringTail start n t) := by
  -- each case of the reader excludes all ways but one in which such a text can go on
  induction n generalizing t with
  | zero => exact ⟨_, _, rfl⟩
  | succ n ih =>
    unfold stringTail
    split
    · exact ⟨_, _, rfl⟩
    · cases h with
      | plain hquote _ _ => exact absurd rfl hquote
    · exact ⟨_, _, rfl⟩
    · rename_i r
      cases h with
      | pair _ hr =>
        rcases unicodeEscape_of_unended hr with hrefused | ⟨c, r', hok, hr'⟩
        · exact hrefused.bind _
        · rw [hok]
          exact (ih hr').bind _
      | plain _ hback _ => exact absurd rfl hback
    · rename_i e r _
      cases h with
      | pair _ hr =>
        split
        · exact ⟨_, _, rfl⟩
        · exact (ih hr).bind _
      | plain _ hback _ => exact absurd rfl hback
    · rename_i c r hquote hback hunit hpair
      cases h with
      | backslash => exact absurd rfl (hback rfl)
      | pair e _ => exact absurd rfl (hpair e _ rfl)
      | plain _ _ hr =>
        split
        · exact ⟨_, _, rfl⟩
        · exact (ih hr).bind _

theorem Unended.of_digits {p ds : Text} (hp : p <+: ds)
    (h : ∀ c ∈ ds, Text.isHexDigit c = true) : Unended p := by
  rw [← List.append_nil p]
  exact (Unended.of_hex fun c hc => h c (hp.subset hc)).2 .nil

theorem Unended.unitEscape {n : Nat} (h : Unended r) : Unended (unitEscape n ++ r) := by
  rw [unitEscape_append]
  exact .pair 'u' ((Unended.of_hex fun c hc => Text.isHexDigit_of_mem_hexPadded hc).2 h)

theorem Unended.of_cut_unitEscape {p : Text} {n : Nat} (h : IsCut p (Json.unitEscape n)) :
    Unended p := by
  rcases isCut_cons_iff.1 h with rfl | ⟨q, rfl, hq⟩
  · exact .nil
  · rcases isCut_cons_iff.1 hq with rfl | ⟨q', rfl, hq'⟩
    · exact .backslash
    · exact .pair 'u' (.of_digits hq'.1 fun c hc => Text.isHexDigit_of_mem_hexPadded hc)

/-- A character that is written inside a string does not end it. -/
theorem Unended.escaped (c : Char) (h : Unended r) : Unended (escaped c ++ r) := by
  rcases escaped_cases c with ⟨e, he, -⟩ | ⟨he, hquote, hback, -⟩ | ⟨he, -⟩ | ⟨he, -⟩
  · rw [he]
    exact .pair e h
  · rw [he]
    exact .plain hquote hback h
  · rw [he]
    exact h.unitEscape
  · rw [he, List.append_assoc]
    exact h.unitEscape.unitEscape

/-- Neither does a part of what is written for a character. -/
theorem Unended.of_cut_escaped {p : Text} {c : Char} (h : IsCut p (Json.escaped c)) :
    Unended p := by
  rcases escaped_cases c with ⟨e, he, -⟩ | ⟨he, -⟩ | ⟨he, -⟩ | ⟨he, -⟩
  · rw [he, isCut_cons_iff] at h
    rcases h with rfl | ⟨q, rfl, hq⟩
    · exact .nil
    · rcases isCut_cons_iff.1 hq with rfl | ⟨q', -, hq'⟩
      · exact .backslash
      · exact absurd hq' (not_isCut_nil q')
  · rw [he, isCut_cons_iff] at h
    rcases h with rfl | ⟨q, -, hq⟩
    · exact .nil
    · exact absurd hq (not_isCut_nil q)
  · exact .of_cut_unitEscape (he ▸ h)
  · rcases (he ▸ h).append with hin | ⟨q, rfl, hq⟩
    · exact .of_cut_unitEscape hin
    · exact (Unended.of_cut_unitEscape hq).unitEscape

/-- **What is written for a text inside a string** does not end it, wherever it is cut off. -/
theorem unended_of_isPrefix {p : Text} (h : p <+: t.flatMap escaped) : Unended p := by
  induction t generalizing p with
  | nil =>
    rw [List.prefix_nil.1 h]
    exact .nil
  | cons c t ih =>
    -- the whole of it is no cut, but has no end either
    by_cases hwhole : p = (c :: t).flatMap escaped
    · rw [hwhole, List.flatMap_cons]
      exact (ih (List.prefix_refl _)).escaped c
    · rw [List.flatMap_cons] at h hwhole
      rcases IsCut.append ⟨h, hwhole⟩ with hin | ⟨q, rfl, hq⟩
      · exact .of_cut_escaped hin
      · exact (ih hq.1).escaped c

/-- **A string that is cut off is refused.** -/
theorem refused_string {p : Text} (h : IsCut p (quote t)) :
    p = [] ∨ ∃ q, p = '"' :: q ∧ Refused (string p) := by
  rcases isCut_cons_iff.1 h with rfl | ⟨q, rfl, hq⟩
  · exact .inl rfl
  · exact .inr ⟨q, rfl, refused_stringTail (unended_of_isPrefix hq.concat)⟩

/-! ## 3.  Values -/

variable {depth level n : Nat} {v : Value} {p q : Text}

/-- A value that is cut off is refused, in at least as many steps as are left of it. -/
def Breaks (depth level : Nat) (v : Value) : Prop :=
  ∀ n p, IsCut p (indented level v) → p.length < n → Refused (value depth n p)

theorem refused_value_nil : Refused (value depth n []) := by
  cases n with
  | zero => exact ⟨_, _, rfl⟩
  | succ n => exact ⟨_, _, rfl⟩

theorem refused_members_nil : Refused (members depth n []) := by
  cases n with
  | zero => exact ⟨_, _, rfl⟩
  | succ n => exact refused_value_nil.bind _

theorem refused_entries_nil : Refused (entries depth n []) := by
  cases n with
  | zero => exact ⟨_, _, rfl⟩
  | succ n => exact ⟨_, _, rfl⟩

theorem refused_value_list {u : Text} (hu : skip q = u) (ht : u.head? ≠ some ']')
    (h : Refused (members depth n u)) : Refused (value (depth + 1) (n + 1) ('[' :: q)) := by
  rw [value]
  dsimp only
  rw [hu]
  split
  · exact absurd rfl ht
  · exact h.bind _

theorem refused_value_table {u : Text} (hu : skip q = u) (ht : u.head? ≠ some '\x7d')
    (h : Refused (entries depth n u)) : Refused (value (depth + 1) (n + 1) ('\x7b' :: q)) := by
  rw [value]
  dsimp only
  rw [hu]
  split
  · exact absurd rfl ht
  · exact h.bind _

/-- A part of a text that does not begin with a blank does not begin with one. -/
theorem skip_eq_self_of_cut {c : Char} {w : Text} (hc : isBlank c = false)
    (h : IsCut p (c :: w)) : skip p = p := by
  rcases isCut_cons_iff.1 h with rfl | ⟨q, rfl, -⟩
  · rfl
  · exact skip_cons_of_not_blank q hc

theorem head?_nil_ne (c : Char) : ([] : Text).head? ≠ some c := (Option.some_ne_none c).symm

theorem head?_ne_of_cut {c d : Char} {w : Text} (hd : c ≠ d) (h : IsCut p (c :: w)) :
    p.head? ≠ some d := by
  rcases isCut_cons_iff.1 h with rfl | ⟨q, rfl, -⟩
  · exact head?_nil_ne d
  · exact fun h => hd (Option.some.inj h)

/-- Behind a cut the blanks of a new line are passed over: nothing is left, or the cut falls behind
the new line. -/
theorem skip_of_cut {c : Char} {w : Text} (hc : isBlank c = false)
    (h : IsCut p (newline level ++ c :: w)) : skip p = [] ∨
      IsCut (skip p) (c :: w) ∧ (skip p).length < p.length := by
  rcases h.append with hin | ⟨q, rfl, hq⟩
  · refine .inl (List.dropWhile_eq_nil_iff.2 fun d hd => ?_)
    have hmem := hin.1.subset hd
    rcases List.mem_cons.1 hmem with rfl | hmem
    · rfl
    · exact (List.mem_replicate.1 hmem).2 ▸ rfl
  · rw [skip_newline, skip_eq_self_of_cut hc hq, List.length_append]
    exact .inr ⟨hq, Nat.lt_add_of_pos_left (Nat.succ_pos _)⟩

/-- A closing sign behind a new line is not reached by a cut. -/
theorem skip_of_cut_close {c : Char} (hc : isBlank c = false)
    (h : IsCut p (newline level ++ [c])) : skip p = [] := by
  rcases skip_of_cut hc h with hnil | ⟨hcut, -⟩
  · exact hnil
  · exact List.prefix_nil.1 (IsCut.concat (a := []) hcut)

/-- What holds of the signs that a value can begin with, holds of its first character. -/
theorem exists_head_of_all (h : Plain depth v) (level : Nat) {p : Char → Bool}
    (hp : ['n', 't', 'f', '"', '[', '\x7b'].all p = true) :
    ∃ c t, indented level v = c :: t ∧ p c = true := by
  obtain ⟨c, t, ht, hc⟩ := exists_indented_eq_cons h level
  exact ⟨c, t, ht, List.all_eq_true.1 hp c hc⟩

/-- What a value begins with is neither a blank nor a closing bracket. -/
theorem exists_head (h : Plain depth v) (level : Nat) :
    ∃ c t, indented level v = c :: t ∧ isBlank c = false ∧ c ≠ ']' := by
  obtain ⟨c, t, ht, hc⟩ := exists_head_of_all h level (p := fun c => !isBlank c && c ≠ ']')
    (by decide)
  rw [Bool.and_eq_true, Bool.not_eq_true', decide_eq_true_eq] at hc
  exact ⟨c, t, ht, hc⟩

/-- A new line and a value are cut off. -/
theorem skip_of_cut_value (hv : Plain depth v) {rest : Text}
    (h : IsCut p (newline level ++ (indented level v ++ rest))) : skip p = [] ∨
      IsCut (skip p) (indented level v ++ rest) ∧ (skip p).length < p.length := by
  obtain ⟨c, t, ht, hblank, -⟩ := exists_head hv level
  rw [ht, List.cons_append] at h ⊢
  exact skip_of_cut hblank h

/-- A value that is cut off does not begin with a blank. -/
theorem skip_eq_self_of_cut_value (hv : Plain depth v) {rest : Text}
    (h : IsCut p (indented level v ++ rest)) : skip p = p := by
  obtain ⟨c, t, ht, hblank, -⟩ := exists_head hv level
  rw [ht, List.cons_append] at h
  exact skip_eq_self_of_cut hblank h

/-- A cut behind a member: nothing follows, or a comma and a further member that is cut off. -/
theorem skip_of_cut_members {vs : List Value} {below : Nat}
    (h : IsCut p (indentedMembers level vs ++ (newline below ++ [']']))) : skip p = [] ∨
      ∃ w ws q, vs = w :: ws ∧ p = ',' :: q ∧ IsCut q (newline level ++
        (indented level w ++ (indentedMembers level ws ++ (newline below ++ [']'])))) := by
  cases vs with
  | nil => exact .inl (skip_of_cut_close rfl h)
  | cons w ws =>
    rw [indentedMembers_cons_append] at h
    rcases isCut_cons_iff.1 h with rfl | ⟨q, rfl, hq⟩
    · exact .inl rfl
    · exact .inr ⟨w, ws, q, rfl, rfl, hq⟩

theorem refused_members_of_value (hv : value depth n p = .ok (v, q))
    (hq : skip q = [] ∨ ∃ u, q = ',' :: u ∧ Refused (members depth n (skip u))) :
    Refused (members depth (n + 1) p) := by
  rw [members, hv]
  refine .of_ok ?_
  rcases hq with hnil | ⟨u, rfl, hu⟩
  · dsimp only
    rw [hnil]
    exact ⟨_, _, rfl⟩
  · exact hu.bind _

/-- The members of a list are refused if they are cut off. -/
theorem refused_members {vs : List Value} (hplain : ∀ w ∈ v :: vs, Plain depth w)
    (hbreaks : ∀ w ∈ v :: vs, Breaks depth level w) {below : Nat}
    (h : IsCut p (indented level v ++ (indentedMembers level vs ++ (newline below ++ [']']))))
    (hn : p.length + 1 < n) : Refused (members depth n p) := by
  -- on the steps that are left: the cut falls into the first member, or this one is read and the
  -- cut falls behind it
  induction n generalizing v vs p with
  | zero => exact absurd hn (Nat.not_lt_zero _)
  | succ n ih =>
    have hv := hplain v (List.mem_cons_self ..)
    rcases h.append with hin | ⟨q, rfl, hq⟩
    · exact (hbreaks v (List.mem_cons_self ..) n p hin (Nat.lt_of_succ_lt_succ hn)).bind _
    · rw [List.length_append] at hn
      refine refused_members_of_value (value_indented hv level n q (by omega)) ?_
      rcases skip_of_cut_members hq with hnil | ⟨w, ws, u, rfl, rfl, hu⟩
      · exact .inl hnil
      · refine .inr ⟨u, rfl, ?_⟩
        rcases skip_of_cut_value (hplain w (by simp)) hu with hnil | ⟨hcut, hlt⟩
        · rw [hnil]
          exact refused_members_nil
        · rw [List.length_cons] at hn
          exact ih (fun x hx => hplain x (List.mem_cons_of_mem _ hx))
            (fun x hx => hbreaks x (List.mem_cons_of_mem _ hx)) hcut (by omega)

/-- A cut behind an entry: nothing follows, or a comma and a further entry that is cut off. -/
theorem skip_of_cut_entries {es : List (Text × Value)} {below : Nat}
    (h : IsCut p (indentedEntries level es ++ (newline below ++ ['\x7d']))) : skip p = [] ∨
      ∃ f fs q, es = f :: fs ∧ p = ',' :: q ∧ IsCut q (newline level ++
        (quote f.1 ++ ':' :: ' ' :: (indented level f.2 ++
          (indentedEntries level fs ++ (newline below ++ ['\x7d']))))) := by
  cases es with
  | nil => exact .inl (skip_of_cut_close rfl h)
  | cons f fs =>
    rw [indentedEntries_cons_append] at h
    rcases isCut_cons_iff.1 h with rfl | ⟨q, rfl, hq⟩
    · exact .inl rfl
    · exact .inr ⟨f, fs, q, rfl, rfl, hq⟩

/-- An entry is refused if it is cut off in its key or in front of its value. -/
theorem refused_entries_of_key {key w : Text} (h : IsCut p (quote key ++ ':' :: ' ' :: w)) :
    Refused (entries depth (n + 1) p) ∨ ∃ q, p = quote key ++ ':' :: ' ' :: q ∧ IsCut q w := by
  rcases h.append with hin | ⟨q, rfl, hq⟩
  · rcases refused_string hin with rfl | ⟨q, rfl, hq⟩
    · exact .inl refused_entries_nil
    · exact .inl (hq.bind _)
  · rcases isCut_cons_iff.1 hq with rfl | ⟨q', rfl, hq'⟩
    · have hstring := string_quote key []
      rw [quote, List.cons_append, List.cons_append] at hstring ⊢
      rw [entries, hstring]
      exact .inl ⟨_, _, rfl⟩
    · rcases isCut_cons_iff.1 hq' with rfl | ⟨u, rfl, hu⟩
      · rw [entries_quote]
        exact .inl (refused_value_nil.bind _)
      · exact .inr ⟨u, rfl, hu⟩

theorem refused_entries_of_value {key : Text} (hv : value depth n (skip p) = .ok (v, q))
    (hq : skip q = [] ∨ ∃ u, q = ',' :: u ∧ Refused (entries depth n (skip u))) :
    Refused (entries depth (n + 1) (quote key ++ ':' :: p)) := by
  rw [entries_quote, hv]
  refine .of_ok ?_
  rcases hq with hnil | ⟨u, rfl, hu⟩
  · dsimp only
    rw [hnil]
    exact ⟨_, _, rfl⟩
  · exact hu.bind _

/-- The entries of a table are refused if they are cut off. -/
theorem refused_entries {e : Text × Value} {es : List (Text × Value)}
    (hplain : ∀ f ∈ e :: es, Plain depth f.2) (hbreaks : ∀ f ∈ e :: es, Breaks depth level f.2)
    {below : Nat} (h : IsCut p (quote e.1 ++ ':' :: ' ' :: (indented level e.2 ++
      (indentedEntries level es ++ (newline below ++ ['\x7d'])))))
    (hn : p.length + 1 < n) : Refused (entries depth n p) := by
  induction n generalizing e es p with
  | zero => exact absurd hn (Nat.not_lt_zero _)
  | succ n ih =>
    have hv := hplain e (List.mem_cons_self ..)
    rcases refused_entries_of_key h with hrefused | ⟨q, rfl, hq⟩
    · exact hrefused
    · have hskip : skip (' ' :: q) = q := skip_eq_self_of_cut_value hv hq
      simp only [List.length_append, List.length_cons] at hn
      rcases hq.append with hin | ⟨r, rfl, hr⟩
      · rw [entries_quote, hskip]
        exact (hbreaks e (List.mem_cons_self ..) n q hin (by omega)).bind _
      · rw [List.length_append] at hn
        refine refused_entries_of_value (v := e.2) (q := r) ?_ ?_
        · rw [hskip]
          exact value_indented hv level n r (by omega)
        · rcases skip_of_cut_entries hr with hnil | ⟨f, fs, u, rfl, rfl, hu⟩
          · exact .inl hnil
          · refine .inr ⟨u, rfl, ?_⟩
            rw [List.length_cons] at hn
            rcases skip_of_cut rfl hu with hnil | ⟨hcut, hlt⟩
            · rw [hnil]
              exact refused_entries_nil
            · exact ih (fun x hx => hplain x (List.mem_cons_of_mem _ hx))
                (fun x hx => hbreaks x (List.mem_cons_of_mem _ hx)) hcut (by omega)

/-! ## 4.  The whole text -/

/-- A value is refused wherever it is cut off, if it is refused in front of its first character and
behind it. -/
theorem breaks_of_cons {c : Char} {t : Text} (ht : indented level v = c :: t)
    (h : ∀ q, IsCut q t → ∀ n, q.length < n → Refused (value depth (n + 1) (c :: q))) :
    Breaks depth level v := by
  intro n p hp hn
  rw [ht] at hp
  obtain ⟨n, rfl⟩ := Nat.exists_eq_add_of_lt hn
  rcases isCut_cons_iff.1 hp with rfl | ⟨q, rfl, hq⟩
  · exact refused_value_nil
  · exact h q hq _ (by rw [List.length_cons]; omega)

/-- A part of a word is refused. -/
theorem breaks_of_word {c : Char} {t : Text} (ht : indented level v = c :: t)
    (h : ∀ k < t.length, ∀ n, Refused (value depth (n + 1) (c :: t.take k))) :
    Breaks depth level v := by
  refine breaks_of_cons ht fun q ⟨hq, hne⟩ n _ => ?_
  rw [List.prefix_iff_eq_take.1 hq]
  exact h q.length (Nat.lt_of_le_of_ne hq.length_le fun heq => hne (hq.eq_of_length heq)) n

/-- A list is refused if it is cut off. -/
theorem breaks_list {vs : List Value} (hplain : ∀ w ∈ vs, Plain depth w)
    (hbreaks : ∀ w ∈ vs, Breaks depth (level + 1) w) : Breaks (depth + 1) level (.list vs) := by
  cases vs with
  | nil =>
    refine breaks_of_word (c := '[') (t := [']']) rfl fun k hk n => ?_
    obtain rfl := Nat.lt_one_iff.1 hk
    exact refused_value_list rfl (head?_nil_ne _) refused_members_nil
  | cons v vs =>
    have hv := hplain v (List.mem_cons_self ..)
    have htext := indented_list_append level v vs []
    rw [List.append_nil] at htext
    refine breaks_of_cons htext fun q hq n hn => ?_
    rcases skip_of_cut_value hv hq with hnil | ⟨hcut, hlt⟩
    · exact refused_value_list hnil (head?_nil_ne _) refused_members_nil
    · refine refused_value_list rfl ?_ (refused_members hplain hbreaks hcut (by omega))
      obtain ⟨c, t, ht, -, hbracket⟩ := exists_head hv (level + 1)
      rw [ht, List.cons_append] at hcut
      exact head?_ne_of_cut hbracket hcut

/-- A table is refused if it is cut off. -/
theorem breaks_table {es : List (Text × Value)} (hplain : ∀ e ∈ es, Plain depth e.2)
    (hbreaks : ∀ e ∈ es, Breaks depth (level + 1) e.2) :
    Breaks (depth + 1) level (.table es) := by
  cases es with
  | nil =>
    refine breaks_of_word (c := '\x7b') (t := ['\x7d']) rfl fun k hk n => ?_
    obtain rfl := Nat.lt_one_iff.1 hk
    exact refused_value_table rfl (head?_nil_ne _) refused_entries_nil
  | cons e es =>
    have htext := indented_table_append level e es []
    rw [List.append_nil] at htext
    refine breaks_of_cons htext fun q hq n hn => ?_
    rcases skip_of_cut rfl hq with hnil | ⟨hcut, hlt⟩
    · exact refused_value_table hnil (head?_nil_ne _) refused_entries_nil
    · exact refused_value_table rfl (head?_ne_of_cut (by decide) hcut)
        (refused_entries hplain hbreaks hcut (by omega))

/-- **A value that is cut off is refused.** -/
theorem breaks_indented (h : Plain depth v) (level : Nat) : Breaks depth level v := by
  induction h generalizing level with
  | null =>
    refine breaks_of_word (c := 'n') (t := ['u', 'l', 'l']) rfl fun k hk n => ?_
    match k, hk with
    | 0, _ => exact ⟨_, _, rfl⟩
    | 1, _ => exact ⟨_, _, rfl⟩
    | 2, _ => exact ⟨_, _, rfl⟩
  | bool b =>
    cases b with
    | true =>
      refine breaks_of_word (c := 't') (t := ['r', 'u', 'e']) rfl fun k hk n => ?_
      match k, hk with
      | 0, _ => exact ⟨_, _, rfl⟩
      | 1, _ => exact ⟨_, _, rfl⟩
      | 2, _ => exact ⟨_, _, rfl⟩
    | false =>
      refine breaks_of_word (c := 'f') (t := ['a', 'l', 's', 'e']) rfl fun k hk n => ?_
      match k, hk with
      | 0, _ => exact ⟨_, _, rfl⟩
      | 1, _ => exact ⟨_, _, rfl⟩
      | 2, _ => exact ⟨_, _, rfl⟩
      | 3, _ => exact ⟨_, _, rfl⟩
  | text t =>
    intro n p hp hn
    obtain ⟨n, rfl⟩ := Nat.exists_eq_add_of_lt hn
    rcases refused_string hp with rfl | ⟨q, rfl, hq⟩
    · exact refused_value_nil
    · exact hq.bind _
  | list hmembers ih => exact breaks_list hmembers fun w hw => ih w hw (level + 1)
  | table hkeys hvalues ih => exact breaks_table hvalues fun e he => ih e he (level + 1)

/-- **The text of a value that is cut off is refused**, and for a defect. -/
theorem refused_parse (h : Plain depthLimit v) (hp : IsCut p (pretty v)) : Refused (parse p) := by
  have hcut : IsCut p (indented 0 v ++ []) := (List.append_nil (indented 0 v)).symm ▸ hp
  have hskip : skip p = p := skip_eq_self_of_cut_value h hcut
  unfold parse
  split
  · exact ⟨_, _, rfl⟩
  · rw [hskip]
    exact (breaks_indented h 0 _ p hp (by omega)).bind _

end Json

end UiHarness
