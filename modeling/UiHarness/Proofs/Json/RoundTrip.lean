import Mathlib.Data.List.TakeWhile
import UiHarness.Json.Parser
import UiHarness.Json.Printer
import UiHarness.Proofs.Steps
import UiHarness.Proofs.Table

/-!
# Reading what was written

A value that is written over several lines is read back as it was: values of any nesting that the
reader follows, with texts of any characters in them.  Numbers and moments of time are left out
here, for a moment is written as a text.

The writer marks what it writes by its first character, and it is by that character that the reader
decides how to go on.  So each form is read back for itself, whatever stands behind it: a character,
a string, a word, the members of a list, the entries of a table.  The length of what was written is
as many steps as its reading needs.

* `Json.string_quote`: a string gives its text back.
* `Json.Plain`: values without numbers and moments, up to a depth.
* `Json.value_indented`: such a value is read back, whatever stands behind it.
* `Json.parse_pretty`: the whole text of such a value is read back.
* `Json.all_isInk_indented`: it is written in ASCII, and has line feeds but no carriage returns.
-/

namespace UiHarness

namespace Text

/-! ## 1.  Hexadecimal digits -/

theorem hexValue_digitChar : ∀ n < 16, hexValue (Nat.digitChar n) = n := by decide

theorem isHexDigit_digitChar : ∀ n < 16, isHexDigit (Nat.digitChar n) = true := by decide

theorem ofHexDigits_toDigits (n : Nat) : ofHexDigits (Nat.toDigits 16 n) = n := by
  -- the last digit is the remainder, and in front of it stand the digits of the quotient
  induction n using Nat.strong_induction_on with
  | _ n ih =>
    rw [Nat.toDigits_eq_if (by decide)]
    split
    · rename_i hn
      rw [ofHexDigits, List.foldl_cons, List.foldl_nil, hexValue_digitChar n hn]
      omega
    · rename_i hn
      have hfront := ih (n / 16) (by omega)
      rw [ofHexDigits] at hfront ⊢
      rw [List.foldl_append, hfront, List.foldl_cons, List.foldl_nil,
        hexValue_digitChar _ (Nat.mod_lt n (by decide))]
      omega

theorem isHexDigit_of_mem_toDigits {n : Nat} {c : Char} (h : c ∈ Nat.toDigits 16 n) :
    isHexDigit c = true := by
  induction n using Nat.strong_induction_on with
  | _ n ih =>
    rw [Nat.toDigits_eq_if (by decide)] at h
    split at h
    · rename_i hn
      exact List.mem_singleton.1 h ▸ isHexDigit_digitChar n hn
    · rename_i hn
      rcases List.mem_append.1 h with h | h
      · exact ih (n / 16) (by omega) h
      · exact List.mem_singleton.1 h ▸ isHexDigit_digitChar _ (Nat.mod_lt n (by decide))

theorem isHexDigit_of_mem_hexPadded {width n : Nat} {c : Char} (h : c ∈ hexPadded width n) :
    isHexDigit c = true := by
  rcases List.mem_append.1 h with h | h
  · exact (List.mem_replicate.1 h).2 ▸ rfl
  · exact isHexDigit_of_mem_toDigits h

/-- Zeros in front do not count. -/
theorem ofHexDigits_hexPadded (width n : Nat) : ofHexDigits (hexPadded width n) = n := by
  have hzeros : ∀ k, (List.replicate k '0').foldl (fun n c => 16 * n + hexValue c) 0 = 0 := by
    intro k
    induction k with
    | zero => rfl
    | succ k ih => exact ih
  rw [hexPadded, ofHexDigits, List.foldl_append, hzeros]
  exact ofHexDigits_toDigits n

/-- A number that has no more digits is padded to the width. -/
theorem length_hexPadded {width n : Nat} (h : (Nat.toDigits 16 n).length ≤ width) :
    (hexPadded width n).length = width := by
  rw [hexPadded, List.length_append, List.length_replicate]
  omega

end Text

namespace Json

/-! ## 2.  Characters -/

/-- Four digits are read back. -/
theorem fourHex?_hexPadded {n : Nat} (h : n < 0x10000) (r : Text) :
    fourHex? (Text.hexPadded 4 n ++ r) = some (n, r) := by
  have hlength := Text.length_hexPadded
    ((Nat.length_toDigits_le_iff (by decide) (by decide)).2 (show n < 16 ^ 4 from h))
  have hdigits := fun c (hc : c ∈ Text.hexPadded 4 n) => Text.isHexDigit_of_mem_hexPadded hc
  have hvalue := Text.ofHexDigits_hexPadded 4 n
  match hp : Text.hexPadded 4 n, hlength with
  | [a, b, c, d], _ =>
    rw [hp] at hdigits hvalue
    rw [List.cons_append, List.cons_append, List.cons_append, List.cons_append, List.nil_append,
      fourHex?, if_pos (List.all_eq_true.2 hdigits), hvalue]

theorem unitEscape_append (n : Nat) (r : Text) :
    unitEscape n ++ r = '\\' :: 'u' :: (Text.hexPadded 4 n ++ r) := rfl

variable {r : Text}

/-- A character that has a unit of its own is read back. -/
theorem unicodeEscape_unit {c : Char} (h : c.toNat < 0x10000) (hr : r ≠ []) :
    unicodeEscape ('u' :: (Text.hexPadded 4 c.toNat ++ r)) = .ok (c, r) := by
  have hvalid : c.toNat < 0xD800 ∨ 0xDFFF < c.toNat ∧ c.toNat < 0x110000 := c.valid
  have hempty : ¬ r.isEmpty = true := fun he => hr (List.isEmpty_iff.1 he)
  rw [unicodeEscape, List.drop_succ_cons, List.drop_zero, fourHex?_hexPadded h]
  dsimp only
  -- a character is never one half of a pair, so its unit is taken for itself
  rw [if_neg hempty, if_neg (by omega), if_neg (by omega), Char.ofNat_toNat]

/-- A character that has two units is read back from them. -/
theorem unicodeEscape_pair {c : Char} (h : 0x10000 ≤ c.toNat) (hr : r ≠ []) :
    unicodeEscape ('u' :: (Text.hexPadded 4 (0xD800 + (c.toNat - 0x10000) / 0x400) ++
      (unitEscape (0xDC00 + (c.toNat - 0x10000) % 0x400) ++ r))) = .ok (c, r) := by
  have hvalid : c.toNat < 0xD800 ∨ 0xDFFF < c.toNat ∧ c.toNat < 0x110000 := c.valid
  have hempty : r.isEmpty = false := by
    rw [← Bool.not_eq_true]
    exact fun he => hr (List.isEmpty_iff.1 he)
  -- the first unit holds the upper ten bits of `k`, and the second one the lower ten
  obtain ⟨k, hk⟩ : ∃ k, c.toNat - 0x10000 = k := ⟨_, rfl⟩
  have hlow : lowUnit? (unitEscape (0xDC00 + k % 0x400) ++ r) =
      some (0xDC00 + k % 0x400, r) := by
    rw [unitEscape_append, lowUnit?, fourHex?_hexPadded (by omega)]
    dsimp only
    rw [if_pos ⟨by omega, by omega, by rw [hempty]; rfl⟩]
  have hchar : 0x10000 + (0xD800 + k / 0x400 - 0xD800) * 0x400 + (0xDC00 + k % 0x400 - 0xDC00) =
      c.toNat := by omega
  rw [hk, unicodeEscape, List.drop_succ_cons, List.drop_zero, fourHex?_hexPadded (by omega)]
  dsimp only
  rw [if_neg (by rw [unitEscape_append]; exact Bool.false_ne_true),
    if_pos ⟨by omega, by omega⟩, hlow]
  dsimp only
  rw [hchar, Char.ofNat_toNat]

/-! ## 3.  Strings -/

variable {start cs rest : Text} {n : Nat}

theorem stringTail_short {e c : Char} (he : shortEscape? e = some c)
    (h : stringTail start n r = .ok (cs, rest)) :
    stringTail start (n + 1) ('\\' :: e :: r) = .ok (c :: cs, rest) := by
  rw [stringTail, he, h]
  · rfl
  · rintro rfl
    cases he

theorem stringTail_unicode {c : Char} {u : Text} (hu : unicodeEscape ('u' :: u) = .ok (c, r))
    (h : stringTail start n r = .ok (cs, rest)) :
    stringTail start (n + 1) ('\\' :: 'u' :: u) = .ok (c :: cs, rest) := by
  rw [stringTail, Except.bind_eq_ok]
  refine ⟨(c, r), hu, ?_⟩
  rw [Except.bind_eq_ok]
  exact ⟨(cs, rest), h, rfl⟩

theorem stringTail_plain {c : Char} (hquote : c ≠ '"') (hback : c ≠ '\\') (hc : ¬ c.toNat < 0x20)
    (h : stringTail start n r = .ok (cs, rest)) :
    stringTail start (n + 1) (c :: r) = .ok (c :: cs, rest) := by
  rw [stringTail, if_neg hc, h]
  · rfl
  · exact hquote
  · exact fun hb => absurd hb hback
  · exact fun _ hb => absurd hb hback
  · exact fun _ _ hb => absurd hb hback

/-- The ways in which a character is written inside a string: behind a backslash, as it is, by its
unit, or by its two units. -/
theorem escaped_cases (c : Char) :
    (∃ e, escaped c = ['\\', e] ∧ shortEscape? e = some c) ∨
      (escaped c = [c] ∧ c ≠ '"' ∧ c ≠ '\\' ∧ ' ' ≤ c ∧ c ≤ '~') ∨
      (escaped c = unitEscape c.toNat ∧ c.toNat < 0x10000) ∨
      (escaped c = unitEscape (0xD800 + (c.toNat - 0x10000) / 0x400) ++
        unitEscape (0xDC00 + (c.toNat - 0x10000) % 0x400) ∧ 0x10000 ≤ c.toNat) := by
  rw [escaped]
  iterate 7
    split
    · rename_i hc
      exact .inl ⟨_, rfl, hc ▸ rfl⟩
  split
  · rename_i hquote hback _ _ _ _ _ hprintable
    exact .inr (.inl ⟨rfl, hquote, hback, hprintable⟩)
  split
  · rename_i hunit
    exact .inr (.inr (.inl ⟨rfl, hunit⟩))
  · rename_i hpair
    exact .inr (.inr (.inr ⟨rfl, Nat.le_of_not_lt hpair⟩))

/-- **Every character is read back** as it is written inside a string, if a string goes on behind
it. -/
theorem stringTail_escaped (c : Char) (hr : r ≠ []) (h : stringTail start n r = .ok (cs, rest)) :
    stringTail start (n + 1) (escaped c ++ r) = .ok (c :: cs, rest) := by
  rcases escaped_cases c with ⟨e, he, hc⟩ | ⟨he, hquote, hback, hc, -⟩ | ⟨he, hc⟩ | ⟨he, hc⟩
  · rw [he]
    exact stringTail_short hc h
  · rw [he]
    exact stringTail_plain hquote hback (Nat.not_lt.2 hc) h
  · rw [he, unitEscape_append]
    exact stringTail_unicode (unicodeEscape_unit hc hr) h
  · rw [he, List.append_assoc, unitEscape_append]
    exact stringTail_unicode (unicodeEscape_pair hc hr) h

theorem stringTail_flatMap (t : Text) (h : t.length < n) :
    stringTail start n (t.flatMap escaped ++ '"' :: r) = .ok (t, r) := by
  induction t generalizing n with
  | nil =>
    obtain ⟨n, rfl⟩ := Nat.exists_eq_add_of_lt h
    exact rfl
  | cons c t ih =>
    cases n with
    | zero => exact absurd h (Nat.not_lt_zero _)
    | succ n =>
      rw [List.flatMap_cons, List.append_assoc]
      exact stringTail_escaped c (List.append_ne_nil_of_right_ne_nil _ (List.cons_ne_nil _ _))
        (ih (Nat.lt_of_succ_lt_succ h))

/-- A character is written as one at least. -/
theorem escaped_ne_nil (c : Char) : escaped c ≠ [] := by
  rcases escaped_cases c with ⟨e, he, -⟩ | ⟨he, -⟩ | ⟨he, -⟩ | ⟨he, -⟩
  all_goals
    rw [he]
    exact List.cons_ne_nil _ _

theorem length_le_flatMap_escaped (t : Text) : t.length ≤ (t.flatMap escaped).length := by
  induction t with
  | nil => exact Nat.le_refl 0
  | cons c t ih =>
    have hc := List.length_pos_iff.2 (escaped_ne_nil c)
    rw [List.flatMap_cons, List.length_append, List.length_cons]
    omega

/-- **A string gives its text back**, whatever stands behind it. -/
theorem string_quote (t r : Text) : string (quote t ++ r) = .ok (t, r) := by
  have hlength := length_le_flatMap_escaped t
  have hquote : quote t ++ r = '"' :: (t.flatMap escaped ++ '"' :: r) := by
    rw [quote, List.cons_append, List.cons_append, List.append_assoc]
    rfl
  rw [string, hquote, List.drop_succ_cons, List.drop_zero]
  refine stringTail_flatMap t ?_
  rw [List.length_cons, List.length_append]
  omega

/-! ## 4.  Values -/

/-- A value without numbers and moments, in which members are at most so many levels inside each
other and no table has a key twice. -/
inductive Plain : Nat → Value → Prop
  | null {depth : Nat} : Plain depth .null
  | bool {depth : Nat} (b : Bool) : Plain depth (.bool b)
  | text {depth : Nat} (t : Text) : Plain depth (.text t)
  | list {depth : Nat} {vs : List Value} (hmembers : ∀ v ∈ vs, Plain depth v) :
    Plain (depth + 1) (.list vs)
  | table {depth : Nat} {es : List (Text × Value)} (hkeys : (es.map Prod.fst).Nodup)
    (hvalues : ∀ e ∈ es, Plain depth e.2) : Plain (depth + 1) (.table es)

variable {depth level : Nat} {v : Value}

/-- What a value begins with. -/
theorem exists_indented_eq_cons (h : Plain depth v) (level : Nat) :
    ∃ c t, indented level v = c :: t ∧ c ∈ ['n', 't', 'f', '"', '[', '\x7b'] := by
  cases h with
  | null => exact ⟨'n', _, rfl, by decide⟩
  | bool b =>
    cases b with
    | true => exact ⟨'t', _, rfl, by decide⟩
    | false => exact ⟨'f', _, rfl, by decide⟩
  | text t => exact ⟨'"', _, rfl, by decide⟩
  | @list _ vs _ =>
    cases vs with
    | nil => exact ⟨'[', _, rfl, by decide⟩
    | cons v vs => exact ⟨'[', _, rfl, by decide⟩
  | @table _ es _ _ =>
    cases es with
    | nil => exact ⟨'\x7b', _, rfl, by decide⟩
    | cons e es => exact ⟨'\x7b', _, rfl, by decide⟩

theorem skip_cons_of_not_blank {c : Char} (t : Text) (h : isBlank c = false) :
    skip (c :: t) = c :: t :=
  List.dropWhile_cons_of_neg (by rw [h]; exact Bool.false_ne_true)

/-- A new line is passed over. -/
theorem skip_newline (level : Nat) (t : Text) : skip (newline level ++ t) = skip t := by
  rw [skip, newline, List.cons_append, List.dropWhile_cons_of_pos rfl]
  refine List.dropWhile_append_of_pos fun c hc => ?_
  exact (List.mem_replicate.1 hc).2 ▸ rfl

/-- A value does not begin with a blank. -/
theorem skip_indented (h : Plain depth v) (level : Nat) (t : Text) :
    skip (indented level v ++ t) = indented level v ++ t := by
  obtain ⟨c, u, hu, hc⟩ := exists_indented_eq_cons h level
  have hblanks : (['n', 't', 'f', '"', '[', '\x7b'].all fun c => !isBlank c) = true := by decide
  have hblank := List.all_eq_true.1 hblanks c hc
  rw [Bool.not_eq_true'] at hblank
  rw [hu, List.cons_append, skip_cons_of_not_blank _ hblank]

theorem value_quote (t r : Text) : value depth (n + 1) (quote t ++ r) = .ok (.text t, r) := by
  have hquote : quote t ++ r = '"' :: (t.flatMap escaped ++ ['"'] ++ r) := rfl
  rw [hquote, value, ← hquote, string_quote]
  rfl

theorem value_list {vs : List Value} {u t : Text} (hu : skip u = t) (ht : t.head? ≠ some ']')
    (h : members depth n t = .ok (vs, rest)) :
    value (depth + 1) (n + 1) ('[' :: u) = .ok (.list vs, rest) := by
  rw [value]
  dsimp only
  rw [hu]
  split
  · exact absurd rfl ht
  · rw [h]
    rfl

theorem value_table {es : List (Text × Value)} {u t : Text} (hu : skip u = t)
    (ht : t.head? ≠ some '\x7d') (hkeys : (es.map Prod.fst).Nodup)
    (h : entries depth n t = .ok (es, rest)) :
    value (depth + 1) (n + 1) ('\x7b' :: u) = .ok (.table es, rest) := by
  rw [value]
  dsimp only
  rw [hu]
  split
  · exact absurd rfl ht
  · rw [h]
    change Except.ok (Value.table (Table.ofList es).entries, rest) = _
    rw [Table.entries_ofList hkeys]

theorem members_last {t : Text} (hv : value depth n t = .ok (v, r)) (hr : skip r = ']' :: rest) :
    members depth (n + 1) t = .ok ([v], rest) := by
  rw [members, Except.bind_eq_ok]
  refine ⟨(v, r), hv, ?_⟩
  dsimp only
  rw [hr]
  rfl

theorem members_more {vs : List Value} {t u : Text} (hv : value depth n t = .ok (v, r))
    (hr : skip r = ',' :: u) (h : members depth n (skip u) = .ok (vs, rest)) :
    members depth (n + 1) t = .ok (v :: vs, rest) := by
  rw [members, Except.bind_eq_ok]
  refine ⟨(v, r), hv, ?_⟩
  dsimp only
  rw [hr]
  exact Except.bind_eq_ok.2 ⟨(vs, rest), h, rfl⟩

/-- The key of an entry is read back. -/
theorem entries_quote (key t : Text) :
    entries depth (n + 1) (quote key ++ ':' :: t) =
      value depth n (skip t) >>= fun x =>
        match skip x.2 with
        | '\x7d' :: r => .ok ([(key, x.1)], r)
        | ',' :: r => entries depth n (skip r) >>= fun y => .ok ((key, x.1) :: y.1, y.2)
        | r => .error (.defect .comma r) := by
  have hquote : quote key ++ ':' :: t = '"' :: (key.flatMap escaped ++ ['"'] ++ ':' :: t) := rfl
  rw [hquote, entries, ← hquote, string_quote]
  rfl

theorem entries_last {key t : Text} (hv : value depth n (skip t) = .ok (v, r))
    (hr : skip r = '\x7d' :: rest) :
    entries depth (n + 1) (quote key ++ ':' :: t) = .ok ([(key, v)], rest) := by
  rw [entries_quote, Except.bind_eq_ok]
  refine ⟨(v, r), hv, ?_⟩
  dsimp only
  rw [hr]
  rfl

theorem entries_more {es : List (Text × Value)} {key t u : Text}
    (hv : value depth n (skip t) = .ok (v, r)) (hr : skip r = ',' :: u)
    (h : entries depth n (skip u) = .ok (es, rest)) :
    entries depth (n + 1) (quote key ++ ':' :: t) = .ok ((key, v) :: es, rest) := by
  rw [entries_quote, Except.bind_eq_ok]
  refine ⟨(v, r), hv, ?_⟩
  dsimp only
  rw [hr]
  exact Except.bind_eq_ok.2 ⟨(es, rest), h, rfl⟩

/-! ## 5.  What was written over several lines -/

/-- A value at a level is read back in as many steps as it has characters, whatever stands behind
it. -/
def ReadsBack (depth level : Nat) (v : Value) : Prop :=
  ∀ n r, (indented level v).length < n → value depth n (indented level v ++ r) = .ok (v, r)

theorem indentedMembers_cons_append (level : Nat) (w : Value) (vs : List Value) (t : Text) :
    indentedMembers level (w :: vs) ++ t =
      ',' :: (newline level ++ (indented level w ++ (indentedMembers level vs ++ t))) := by
  simp only [indentedMembers, List.cons_append, List.append_assoc]

theorem indentedEntries_cons_append (level : Nat) (e : Text × Value) (es : List (Text × Value))
    (t : Text) :
    indentedEntries level (e :: es) ++ t =
      ',' :: (newline level ++ (quote e.1 ++ ':' :: ' ' :: (indented level e.2 ++
        (indentedEntries level es ++ t)))) := by
  obtain ⟨key, v⟩ := e
  have hcolon : (": ".toList : Text) = [':', ' '] := rfl
  simp only [indentedEntries, hcolon, List.cons_append, List.append_assoc, List.nil_append]

theorem indented_list_append (level : Nat) (v : Value) (vs : List Value) (t : Text) :
    indented level (.list (v :: vs)) ++ t =
      '[' :: (newline (level + 1) ++ (indented (level + 1) v ++
        (indentedMembers (level + 1) vs ++ (newline level ++ ']' :: t)))) := by
  simp only [indented, List.cons_append, List.append_assoc, List.nil_append]

theorem indented_table_append (level : Nat) (e : Text × Value) (es : List (Text × Value))
    (t : Text) :
    indented level (.table (e :: es)) ++ t =
      '\x7b' :: (newline (level + 1) ++ (quote e.1 ++ ':' :: ' ' :: (indented (level + 1) e.2 ++
        (indentedEntries (level + 1) es ++ (newline level ++ '\x7d' :: t))))) := by
  obtain ⟨key, v⟩ := e
  have hcolon : (": ".toList : Text) = [':', ' '] := rfl
  simp only [indented, hcolon, List.cons_append, List.append_assoc, List.nil_append]

/-- The members of a list are read back if each of them is. -/
theorem members_indented {vs : List Value} (hplain : ∀ w ∈ v :: vs, Plain depth w)
    (hread : ∀ w ∈ v :: vs, ReadsBack depth level w) (below : Nat)
    (hn : (indented level v).length + (indentedMembers level vs).length + 1 < n) :
    members depth n (indented level v ++
      (indentedMembers level vs ++ (newline below ++ ']' :: r))) = .ok (v :: vs, r) := by
  induction vs generalizing v n with
  | nil =>
    obtain ⟨n, rfl⟩ := Nat.exists_eq_add_of_lt hn
    refine members_last (hread v (List.mem_cons_self ..) _ _ (by omega)) ?_
    rw [indentedMembers, List.nil_append, skip_newline, skip_cons_of_not_blank r rfl]
  | cons w vs ih =>
    have hlength := congrArg List.length (indentedMembers_cons_append level w vs [])
    simp only [List.append_nil, List.length_cons, List.length_append] at hlength
    obtain ⟨n, rfl⟩ := Nat.exists_eq_add_of_lt hn
    rw [indentedMembers_cons_append]
    refine members_more (hread v (List.mem_cons_self ..) _ _ (by omega))
      (skip_cons_of_not_blank _ rfl) ?_
    rw [skip_newline, skip_indented (hplain w (by simp))]
    exact ih (fun x hx => hplain x (List.mem_cons_of_mem _ hx))
      (fun x hx => hread x (List.mem_cons_of_mem _ hx)) (by omega)

/-- The entries of a table are read back if their values are. -/
theorem entries_indented {e : Text × Value} {es : List (Text × Value)}
    (hplain : ∀ f ∈ e :: es, Plain depth f.2)
    (hread : ∀ f ∈ e :: es, ReadsBack depth level f.2) (below : Nat)
    (hn : (indented level e.2).length + (indentedEntries level es).length + 1 < n) :
    entries depth n (quote e.1 ++ ':' :: ' ' :: (indented level e.2 ++
      (indentedEntries level es ++ (newline below ++ '\x7d' :: r)))) = .ok (e :: es, r) := by
  induction es generalizing e n with
  | nil =>
    obtain ⟨n, rfl⟩ := Nat.exists_eq_add_of_lt hn
    have hvalue := hread e (List.mem_cons_self ..)
    rw [indentedEntries, List.nil_append]
    refine entries_last (r := newline below ++ '\x7d' :: r) ?_ ?_
    · exact (congrArg _ (skip_indented (hplain e (by simp)) level _)).trans (hvalue _ _ (by omega))
    · rw [skip_newline, skip_cons_of_not_blank r rfl]
  | cons f es ih =>
    have hlength := congrArg List.length (indentedEntries_cons_append level f es [])
    simp only [List.append_nil, List.length_cons, List.length_append] at hlength
    obtain ⟨n, rfl⟩ := Nat.exists_eq_add_of_lt hn
    have hvalue := hread e (List.mem_cons_self ..)
    refine entries_more (r := indentedEntries level (f :: es) ++ (newline below ++ '\x7d' :: r))
      ?_ (by rw [indentedEntries_cons_append]; exact skip_cons_of_not_blank _ rfl) ?_
    · exact (congrArg _ (skip_indented (hplain e (by simp)) level _)).trans (hvalue _ _ (by omega))
    · rw [skip_newline]
      exact ih (fun x hx => hplain x (List.mem_cons_of_mem _ hx))
        (fun x hx => hread x (List.mem_cons_of_mem _ hx)) (by omega)

theorem readsBack_of_word {t : Text} (ht : ∀ level, indented level v = t)
    (hv : ∀ n r, value depth (n + 1) (t ++ r) = .ok (v, r)) : ReadsBack depth level v := by
  intro n r hn
  obtain ⟨n, rfl⟩ := Nat.exists_eq_succ_of_ne_zero (Nat.ne_zero_of_lt hn)
  rw [ht]
  exact hv n r

/-- **A value is read back**, whatever stands behind it. -/
theorem value_indented (h : Plain depth v) (level : Nat) : ReadsBack depth level v := by
  induction h generalizing level with
  | null => exact readsBack_of_word (fun _ => rfl) fun n r => rfl
  | bool b =>
    cases b with
    | true => exact readsBack_of_word (fun _ => rfl) fun n r => rfl
    | false => exact readsBack_of_word (fun _ => rfl) fun n r => rfl
  | text t => exact readsBack_of_word (fun _ => rfl) fun n r => value_quote t r
  | @list depth vs hmembers ih =>
    cases vs with
    | nil => exact readsBack_of_word (fun _ => rfl) fun n r => rfl
    | cons v vs =>
      intro n r hn
      have hlist := indented_list_append level v vs
      have hlength := congrArg List.length (hlist [])
      simp only [List.append_nil, List.length_cons, List.length_append] at hlength
      obtain ⟨n, rfl⟩ := Nat.exists_eq_add_of_lt hn
      have hv := hmembers v (List.mem_cons_self ..)
      rw [hlist]
      refine value_list ((skip_newline _ _).trans (skip_indented hv _ _)) ?_
        (members_indented hmembers (fun w hw => ih w hw (level + 1)) level (by omega))
      -- no value begins with the bracket that would end the list at once
      obtain ⟨c, t, ht, hc⟩ := exists_indented_eq_cons hv (level + 1)
      rw [ht, List.cons_append, List.head?_cons]
      rintro hbracket
      rw [Option.some.inj hbracket] at hc
      exact absurd hc (by decide)
  | @table depth es hkeys hvalues ih =>
    cases es with
    | nil => exact readsBack_of_word (fun _ => rfl) fun n r => rfl
    | cons e es =>
      intro n r hn
      have htable := indented_table_append level e es
      have hlength := congrArg List.length (htable [])
      simp only [List.append_nil, List.length_cons, List.length_append] at hlength
      obtain ⟨n, rfl⟩ := Nat.exists_eq_add_of_lt hn
      rw [htable]
      refine value_table ((skip_newline _ _).trans (skip_cons_of_not_blank _ rfl)) ?_ hkeys
        (entries_indented hvalues (fun f hf => ih f hf (level + 1)) level (by omega))
      exact fun hbrace => by cases hbrace

/-- **The text of a value is read back** as the value. -/
theorem parse_pretty (h : Plain depthLimit v) : parse (pretty v) = .ok v := by
  obtain ⟨c, t, ht, hc⟩ := exists_indented_eq_cons h 0
  have hskip := skip_indented h 0 []
  rw [List.append_nil] at hskip
  have hread := value_indented h 0 (2 * (pretty v).length + 2) [] (by rw [pretty]; omega)
  rw [List.append_nil] at hread
  rw [parse]
  · rw [Except.bind_eq_ok]
    exact ⟨(v, []), by rw [pretty] at hread ⊢; rw [hskip]; exact hread, rfl⟩
  · intro u hu
    rw [pretty, ht] at hu
    rw [(List.cons.inj hu).1] at hc
    exact absurd hc (by decide)

/-! ## 6.  The characters of what was written -/

/-- A line feed or a character of printable ASCII. -/
def isInk (c : Char) : Bool := c = '\n' || (' ' ≤ c && c ≤ '~')

theorem isInk_of_isHexDigit {c : Char} (h : Text.isHexDigit c = true) : isInk c = true := by
  have hink : ' ' ≤ c → c ≤ '~' → isInk c = true := by
    intro hl hr
    rw [isInk, decide_eq_true hl, decide_eq_true hr, Bool.and_self, Bool.or_true]
  simp only [Text.isHexDigit, Text.isDigitAscii, Bool.or_eq_true, Bool.and_eq_true,
    decide_eq_true_eq] at h
  rcases h with (h | h) | h
  · exact hink (Char.le_trans (by decide) h.1) (Char.le_trans h.2 (by decide))
  · exact hink (Char.le_trans (by decide) h.1) (Char.le_trans h.2 (by decide))
  · exact hink (Char.le_trans (by decide) h.1) (Char.le_trans h.2 (by decide))

theorem all_isInk_unitEscape (n : Nat) : (unitEscape n).all isInk = true := by
  have hdigits : (Text.hexPadded 4 n).all isInk = true :=
    List.all_eq_true.2 fun c hc => isInk_of_isHexDigit (Text.isHexDigit_of_mem_hexPadded hc)
  rw [unitEscape, List.all_append, hdigits]
  rfl

theorem isInk_of_shortEscape? {c e : Char} (h : shortEscape? e = some c) : isInk e = true := by
  unfold shortEscape? at h
  split at h
  all_goals first | rfl | cases h

theorem all_isInk_escaped (c : Char) : (escaped c).all isInk = true := by
  rcases escaped_cases c with ⟨e, he, h⟩ | ⟨he, -, -, hl, hr⟩ | ⟨he, -⟩ | ⟨he, -⟩
  · rw [he, List.all_cons, List.all_cons, isInk_of_shortEscape? h]
    rfl
  · rw [he, List.all_cons, isInk, decide_eq_true hl, decide_eq_true hr, Bool.and_self,
      Bool.or_true]
    rfl
  · rw [he]
    exact all_isInk_unitEscape _
  · rw [he, List.all_append, all_isInk_unitEscape, all_isInk_unitEscape]
    rfl

theorem all_isInk_quote (t : Text) : (quote t).all isInk = true := by
  have hinside : (t.flatMap escaped).all isInk = true := by
    rw [List.all_flatMap]
    exact List.all_eq_true.2 fun c _ => all_isInk_escaped c
  rw [quote, List.cons_append, List.all_cons, List.all_append, hinside]
  rfl

theorem all_isInk_newline (level : Nat) : (newline level).all isInk = true := by
  have hblanks : (List.replicate (2 * level) ' ').all isInk = true :=
    List.all_eq_true.2 fun c hc => (List.mem_replicate.1 hc).2 ▸ rfl
  rw [newline, List.all_cons, hblanks]
  rfl

theorem all_isInk_indentedMembers {vs : List Value}
    (h : ∀ w ∈ vs, (indented level w).all isInk = true) :
    (indentedMembers level vs).all isInk = true := by
  induction vs with
  | nil => rfl
  | cons w vs ih =>
    rw [List.forall_mem_cons] at h
    have htext := indentedMembers_cons_append level w vs []
    rw [List.append_nil, List.append_nil] at htext
    rw [htext, List.all_cons, List.all_append, List.all_append, all_isInk_newline, h.1, ih h.2]
    rfl

theorem all_isInk_indentedEntries {es : List (Text × Value)}
    (h : ∀ e ∈ es, (indented level e.2).all isInk = true) :
    (indentedEntries level es).all isInk = true := by
  induction es with
  | nil => rfl
  | cons e es ih =>
    rw [List.forall_mem_cons] at h
    have htext := indentedEntries_cons_append level e es []
    rw [List.append_nil, List.append_nil] at htext
    rw [htext, List.all_cons, List.all_append, List.all_append, List.all_cons, List.all_cons,
      List.all_append, all_isInk_newline, all_isInk_quote, h.1, ih h.2]
    rfl

/-- **A value is written in ASCII**, without control characters but for line feeds. -/
theorem all_isInk_indented (h : Plain depth v) (level : Nat) :
    (indented level v).all isInk = true := by
  induction h generalizing level with
  | null => rfl
  | bool b =>
    cases b with
    | true => rfl
    | false => rfl
  | text t => exact all_isInk_quote t
  | @list depth vs hmembers ih =>
    cases vs with
    | nil => rfl
    | cons v vs =>
      rw [List.forall_mem_cons] at ih
      have hvs := all_isInk_indentedMembers fun w hw => ih.2 w hw (level + 1)
      have htext := indented_list_append level v vs []
      rw [List.append_nil] at htext
      rw [htext, List.all_cons, List.all_append, List.all_append, List.all_append, List.all_append,
        all_isInk_newline, all_isInk_newline, ih.1, hvs]
      rfl
  | @table depth es hkeys hvalues ih =>
    cases es with
    | nil => rfl
    | cons e es =>
      rw [List.forall_mem_cons] at ih
      have hes := all_isInk_indentedEntries fun f hf => ih.2 f hf (level + 1)
      have htext := indented_table_append level e es []
      rw [List.append_nil] at htext
      rw [htext, List.all_cons, List.all_append, List.all_append, List.all_cons, List.all_cons,
        List.all_append, List.all_append, List.all_append, all_isInk_newline, all_isInk_newline,
        all_isInk_quote, ih.1, hes]
      rfl

/-- The text of a value has no carriage return. -/
theorem not_mem_pretty (h : Plain depth v) : '\r' ∉ pretty v := by
  intro hr
  have hink := List.all_eq_true.1 (all_isInk_indented h 0) _ hr
  cases hink

end Json

end UiHarness
