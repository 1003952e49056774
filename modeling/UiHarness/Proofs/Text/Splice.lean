import UiHarness.Text.Bytes

/-!
# Texts put into texts

Hooks are put into a file by inserting texts at places that are counted in bytes.  This module
says what the result is, without a word on how it is computed.

* `splice f place l`: a list whose entries are numbered from `place` on, with the list `f o` in
  front of the entry `o`; what `f` has for the place behind the last entry comes at the end.
* `splice_eq_flatMap`: this list, place by place.
* `Inserted pieces before after`: `after` is `before` with some pieces put in, in this order.
  Taking the pieces out again gives `before` back.
* `Inserted.infix_iff`: which marked lists stand among the pieces.
* `Scattered pieces before after`: the same without the order of the pieces.
* `Text.weave`: the same as `splice` for a text, whose characters have as many numbers as bytes.
* `Text.bytes_weave`: in bytes, weaving is splicing, if nothing is put into a character.
* `Text.inserted_weave`: weaving texts in at increasing places inserts them.
* `Text.scattered_weave`: at places that differ, it scatters them.
-/

namespace UiHarness

variable {α β : Type}

/-! ## 1.  Splicing -/

/-- A list whose entries are numbered from a place on, with a list in front of each entry and one
behind the last entry. -/
def splice (f : Nat → List α) (place : Nat) : List α → List α
  | [] => f place
  | a :: l => f place ++ a :: splice f (place + 1) l

@[simp] theorem splice_nil (f : Nat → List α) (place : Nat) : splice f place [] = f place := rfl

theorem splice_cons (f : Nat → List α) (place : Nat) (a : α) (l : List α) :
    splice f place (a :: l) = f place ++ a :: splice f (place + 1) l := rfl

/-- Only the places of a list matter. -/
theorem splice_congr {f g : Nat → List α} {place : Nat} {l : List α}
    (h : ∀ o, place ≤ o → o ≤ place + l.length → f o = g o) :
    splice f place l = splice g place l := by
  induction l generalizing place with
  | nil => exact h place (Nat.le_refl _) (by simp)
  | cons a l ih =>
    have hl : splice f (place + 1) l = splice g (place + 1) l := by
      refine ih fun o ho ho' => h o (by omega) ?_
      rw [List.length_cons]
      omega
    rw [splice_cons, splice_cons, h place (Nat.le_refl _) (by omega), hl]

/-- In front of entries at whose places nothing is put in, nothing changes. -/
theorem splice_append {f : Nat → List α} {place : Nat} {front : List α} (back : List α)
    (h : ∀ o, place ≤ o → o < place + front.length → f o = []) :
    splice f place (front ++ back) = front ++ splice f (place + front.length) back := by
  induction front generalizing place with
  | nil => rfl
  | cons a front ih =>
    rw [List.length_cons] at h ⊢
    have hback : splice f (place + 1) (front ++ back) =
        front ++ splice f (place + 1 + front.length) back :=
      ih fun o ho ho' => h o (by omega) (by omega)
    rw [List.cons_append, splice_cons, hback, h place (Nat.le_refl _) (by omega), List.nil_append,
      List.cons_append, Nat.add_assoc, Nat.add_comm 1]

/-- Where nothing is put in, nothing changes. -/
theorem splice_eq_self {f : Nat → List α} {place : Nat} {l : List α}
    (h : ∀ o, place ≤ o → o ≤ place + l.length → f o = []) : splice f place l = l := by
  have hl : splice f place (l ++ []) = l ++ splice f (place + l.length) [] :=
    splice_append [] fun o ho ho' => h o ho (Nat.le_of_lt ho')
  rw [List.append_nil] at hl
  rw [hl, splice_nil, h _ (by omega) (Nat.le_refl _), List.append_nil]

/-- What is put in first at the first place comes in front of all else. -/
theorem splice_of_append {f g : Nat → List α} {place : Nat} {x : List α} (l : List α)
    (h : f place = x ++ g place) (h' : ∀ o, place < o → f o = g o) :
    splice f place l = x ++ splice g place l := by
  cases l with
  | nil => exact h
  | cons a l =>
    rw [splice_cons, splice_cons, h, splice_congr fun o ho _ => h' o (by omega),
      List.append_assoc]

/-- A list with something in front of each entry, place by place. -/
theorem splice_eq_flatMap (f : Nat → List α) (place : Nat) (l : List α) :
    splice f place l =
      (List.range' place (l.length + 1)).flatMap fun o => f o ++ l[o - place]?.toList := by
  induction l generalizing place with
  | nil => simp
  | cons a l ih =>
    have hrest : splice f (place + 1) l = (List.range' (place + 1) (l.length + 1)).flatMap
        fun o => f o ++ (a :: l)[o - place]?.toList := by
      rw [ih, List.flatMap_def, List.flatMap_def]
      congr 1
      refine List.map_congr_left fun o ho => ?_
      have hle := (List.mem_range'_1.1 ho).1
      rw [show o - place = o - (place + 1) + 1 by omega, List.getElem?_cons_succ]
    have hrange : List.range' place ((a :: l).length + 1) =
        place :: List.range' (place + 1) (l.length + 1) := List.range'_succ
    rw [splice_cons, hrest, hrange, List.flatMap_cons, Nat.sub_self, List.getElem?_cons_zero,
      Option.toList_some, List.append_assoc, List.singleton_append]

/-! ## 2.  Marked lists

The hooks begin with a mark, a space, that has no second place in them. -/

/-- A marked list in front of which there are other entries stands behind them. -/
theorem infix_of_not_mem {m : α} {q x l : List α} (hx : m ∉ x) (h : m :: q <:+: x ++ l) :
    m :: q <:+: l := by
  induction x with
  | nil => exact h
  | cons a x ih =>
    rw [List.mem_cons, not_or] at hx
    rcases List.infix_cons_iff.1 h with hpre | hinfix
    · exact absurd (List.cons_prefix_cons.1 hpre).1 hx.1
    · exact ih hx.2 hinfix

/-- A marked list does not stand across a second mark. -/
theorem infix_or_infix {m : α} {q l l' : List α} (hq : m ∉ q) (h : m :: q <:+: l ++ m :: l') :
    m :: q <:+: l ∨ m :: q <:+: m :: l' := by
  induction l with
  | nil => exact .inr h
  | cons a l ih =>
    rcases List.infix_cons_iff.1 h with hpre | hinfix
    · refine .inl ?_
      rcases List.prefix_or_prefix_of_prefix hpre (List.prefix_append (a :: l) (m :: l')) with
        hin | ⟨rest, hout⟩
      · exact hin.isInfix
      · rw [← hout] at hpre
        cases rest with
        | nil =>
          rw [List.append_nil] at hout
          exact hout ▸ List.infix_refl _
        | cons b rest =>
          obtain rfl := (List.cons_prefix_cons.1 ((List.prefix_append_right_inj _).1 hpre)).1
          refine absurd ?_ hq
          rw [← (List.cons.inj hout).2]
          exact List.mem_append_right _ (List.mem_cons_self ..)
    · rcases ih hinfix with hin | hin
      · exact .inl (hin.trans (List.suffix_cons _ _).isInfix)
      · exact .inr hin

/-! ## 3.  Insertions -/

/-- A list with pieces put into it, in order. -/
inductive Inserted : List (List α) → List α → List α → Prop
  | rest (l : List α) : Inserted [] l l
  | piece (front piece : List α) {pieces : List (List α)} {before after : List α} :
      Inserted pieces before after →
        Inserted (piece :: pieces) (front ++ before) (front ++ (piece ++ after))

namespace Inserted

/-- The entries of the pieces are added to those of the list. -/
theorem count_eq [BEq α] {pieces : List (List α)} {before after : List α}
    (h : Inserted pieces before after) (a : α) :
    after.count a = before.count a + pieces.flatten.count a := by
  induction h with
  | rest l => simp
  | piece front piece _ ih =>
    rw [List.count_append, List.count_append, ih, List.count_append, List.flatten_cons,
      List.count_append]
    omega

/-- The lengths of the pieces are added to that of the list. -/
theorem length_eq {pieces : List (List α)} {before after : List α}
    (h : Inserted pieces before after) :
    after.length = before.length + pieces.flatten.length := by
  induction h with
  | rest l => simp
  | piece front piece _ ih =>
    rw [List.length_append, List.length_append, ih, List.length_append, List.flatten_cons,
      List.length_append]
    omega

/-- Each piece is there. -/
theorem infix_of_mem {pieces : List (List α)} {before after : List α}
    (h : Inserted pieces before after) {piece : List α} (hp : piece ∈ pieces) :
    piece <:+: after := by
  induction h with
  | rest l => cases hp
  | @piece front x pieces before after _ ih =>
    rcases List.mem_cons.1 hp with rfl | hp
    · exact ⟨front, after, by rw [List.append_assoc]⟩
    · exact (ih hp).trans ⟨front ++ x, [], by rw [List.append_nil, List.append_assoc]⟩

/-- **A marked list stands among marked pieces** only as one of them, if it did not stand there
before. -/
theorem infix_iff {pieces : List (List α)} {before after : List α}
    (h : Inserted pieces before after) {m : α} {q : List α} (hq : m ∉ q)
    (hmarked : ∀ piece ∈ pieces, ∃ x, piece = m :: x ∧ m ∉ x)
    (hpieces : ∀ piece ∈ pieces, ∀ more, m :: q <+: piece ++ more → piece = m :: q)
    (hbefore : ¬ m :: q <:+: before) : m :: q <:+: after ↔ m :: q ∈ pieces := by
  refine ⟨fun hinfix => ?_, fun hmem => h.infix_of_mem hmem⟩
  induction h with
  | rest l => exact absurd hinfix hbefore
  | @piece front piece pieces before after _ ih =>
    obtain ⟨x, rfl, hx⟩ := hmarked piece (List.mem_cons_self ..)
    rcases infix_or_infix hq hinfix with hfront | hback
    · exact absurd (hfront.trans (List.prefix_append _ _).isInfix) hbefore
    · rcases List.infix_cons_iff.1 hback with hpre | hrest
      · exact hpieces _ (List.mem_cons_self ..) _ hpre ▸ List.mem_cons_self ..
      · refine List.mem_cons_of_mem _ (ih (fun p hp => hmarked p (List.mem_cons_of_mem _ hp))
          (fun p hp => hpieces p (List.mem_cons_of_mem _ hp)) (fun hb => hbefore ?_)
          (infix_of_not_mem hx hrest))
        exact hb.trans (List.suffix_append _ _).isInfix

/-- What stands before both lists. -/
theorem append_left (front : List α) {pieces : List (List α)} {before after : List α}
    (h : Inserted pieces before after) : Inserted pieces (front ++ before) (front ++ after) := by
  cases h with
  | rest l => exact .rest _
  | piece front' piece h =>
    rw [← List.append_assoc, ← List.append_assoc]
    exact .piece (front ++ front') piece h

/-- Pieces are put into two lists one behind the other as they are into each. -/
theorem append {pieces pieces' : List (List α)} {before after before' after' : List α}
    (h : Inserted pieces before after) (h' : Inserted pieces' before' after') :
    Inserted (pieces ++ pieces') (before ++ before') (after ++ after') := by
  induction h with
  | rest l => exact h'.append_left l
  | piece front piece _ ih =>
    rw [List.append_assoc, List.append_assoc, List.append_assoc]
    exact .piece front piece ih

/-- Entries that are replaced by lists leave the pieces where they are. -/
theorem flatMap {pieces : List (List α)} {before after : List α}
    (h : Inserted pieces before after) (f : α → List β) :
    Inserted (pieces.map (List.flatMap f)) (before.flatMap f) (after.flatMap f) := by
  induction h with
  | rest l => exact .rest _
  | piece front piece _ ih =>
    rw [List.map_cons, List.flatMap_append, List.flatMap_append, List.flatMap_append]
    exact .piece _ _ ih

end Inserted

/-- A list with pieces put into it, in some order. -/
def Scattered (pieces : List (List α)) (before after : List α) : Prop :=
  ∃ order, order.Perm pieces ∧ Inserted order before after

theorem Inserted.scattered {pieces : List (List α)} {before after : List α}
    (h : Inserted pieces before after) : Scattered pieces before after :=
  ⟨pieces, .refl pieces, h⟩

namespace Scattered

variable {pieces : List (List α)} {before after : List α}

/-- Without pieces nothing changes. -/
theorem refl (l : List α) : Scattered [] l l := (Inserted.rest l).scattered

/-- The entries of the pieces are added to those of the list. -/
theorem count_eq [BEq α] (h : Scattered pieces before after) (a : α) :
    after.count a = before.count a + pieces.flatten.count a := by
  obtain ⟨order, hperm, h⟩ := h
  rw [h.count_eq a, hperm.flatten.count_eq a]

/-- The lengths of the pieces are added to that of the list. -/
theorem length_eq (h : Scattered pieces before after) :
    after.length = before.length + pieces.flatten.length := by
  obtain ⟨order, hperm, h⟩ := h
  rw [h.length_eq, hperm.flatten.length_eq]

/-- Each piece is there. -/
theorem infix_of_mem (h : Scattered pieces before after) {piece : List α} (hp : piece ∈ pieces) :
    piece <:+: after := by
  obtain ⟨order, hperm, h⟩ := h
  exact h.infix_of_mem (hperm.mem_iff.2 hp)

/-- **A marked list stands among marked pieces** only as one of them, if it did not stand there
before. -/
theorem infix_iff (h : Scattered pieces before after) {m : α} {q : List α} (hq : m ∉ q)
    (hmarked : ∀ piece ∈ pieces, ∃ x, piece = m :: x ∧ m ∉ x)
    (hpieces : ∀ piece ∈ pieces, ∀ more, m :: q <+: piece ++ more → piece = m :: q)
    (hbefore : ¬ m :: q <:+: before) : m :: q <:+: after ↔ m :: q ∈ pieces := by
  obtain ⟨order, hperm, h⟩ := h
  rw [h.infix_iff hq (fun piece hp => hmarked piece (hperm.mem_iff.1 hp))
    (fun piece hp => hpieces piece (hperm.mem_iff.1 hp)) hbefore, hperm.mem_iff]

/-- Entries that are replaced by lists leave the pieces where they are. -/
theorem flatMap (h : Scattered pieces before after) (f : α → List β) :
    Scattered (pieces.map (List.flatMap f)) (before.flatMap f) (after.flatMap f) := by
  obtain ⟨order, hperm, h⟩ := h
  exact ⟨_, hperm.map _, h.flatMap f⟩

end Scattered

/-- What is put in at each place, and nothing else, is put in. -/
theorem inserted_splice (f : Nat → List α) (place : Nat) (l : List α) :
    Inserted ((List.range' place (l.length + 1)).map f) l (splice f place l) := by
  induction l generalizing place with
  | nil =>
    have h := Inserted.piece [] (f place) (.rest ([] : List α))
    rwa [List.nil_append, List.nil_append, List.append_nil] at h
  | cons a l ih => exact .piece [] (f place) ((ih (place + 1)).append_left [a])

namespace Text

/-! ## 4.  Bytes -/

/-- The bytes of a text. -/
def bytes (t : Text) : List UInt8 := (encode t).data.toList

theorem bytes_eq_flatMap (t : Text) : bytes t = t.flatMap String.utf8EncodeChar := by
  simp [bytes, encode]

@[simp] theorem bytes_nil : bytes [] = [] := rfl

@[simp] theorem bytes_cons (c : Char) (t : Text) :
    bytes (c :: t) = String.utf8EncodeChar c ++ bytes t := by
  rw [bytes_eq_flatMap, bytes_eq_flatMap, List.flatMap_cons]

@[simp] theorem bytes_append (s t : Text) : bytes (s ++ t) = bytes s ++ bytes t := by
  rw [bytes_eq_flatMap, bytes_eq_flatMap, bytes_eq_flatMap, List.flatMap_append]

@[simp] theorem length_bytes (t : Text) : (bytes t).length = byteSize t := by
  induction t with
  | nil => rfl
  | cons c t ih => rw [bytes_cons, List.length_append, ih, byteSize_cons,
      String.length_utf8EncodeChar]

/-- Texts of the same bytes are equal. -/
theorem encode_injective {s t : Text} (h : encode s = encode t) : s = t := by
  have hs := decode_encode s
  rw [h, decode_encode t] at hs
  exact (Except.ok.inj hs).symm

theorem encode_eq_of_bytes {t : Text} {bs : List UInt8} (h : bytes t = bs) :
    encode t = ⟨bs.toArray⟩ := by
  rw [← h, bytes]

theorem byteSize_pos {t : Text} (h : t ≠ []) : 0 < byteSize t := by
  cases t with
  | nil => exact absurd rfl h
  | cons c t => exact Nat.lt_of_lt_of_le c.utf8Size_pos (Nat.le_add_right _ _)

/-! ## 5.  Weaving -/

/-- A text that starts at a place, with a text in front of each character and one at the end. -/
def weave (f : Nat → Text) (place : Nat) : Text → Text
  | [] => f place
  | c :: t => f place ++ c :: weave f (place + c.utf8Size) t

@[simp] theorem weave_nil (f : Nat → Text) (place : Nat) : weave f place [] = f place := rfl

theorem weave_cons (f : Nat → Text) (place : Nat) (c : Char) (t : Text) :
    weave f place (c :: t) = f place ++ c :: weave f (place + c.utf8Size) t := rfl

/-- A place of a text that does not lie inside a character. -/
def IsBoundary (t : Text) (place : Nat) : Prop :=
  ∃ front back, t = front ++ back ∧ byteSize front = place

/-- Behind the first character, the places of a text are those of the rest. -/
theorem IsBoundary.tail {c : Char} {t : Text} {place : Nat} (h : IsBoundary (c :: t) place)
    (hp : place ≠ 0) : c.utf8Size ≤ place ∧ IsBoundary t (place - c.utf8Size) := by
  obtain ⟨front, back, ht, hs⟩ := h
  cases front with
  | nil => exact absurd hs.symm hp
  | cons a front =>
    rw [List.cons_append, List.cons.injEq] at ht
    rw [byteSize_cons, ← ht.1] at hs
    exact ⟨by omega, front, back, ht.2, by omega⟩

/-- **In bytes, weaving is splicing**, if no text is put into a character. -/
theorem bytes_weave {f : Nat → Text} {place : Nat} {t : Text}
    (h : ∀ o, f (place + o) ≠ [] → o ≤ byteSize t → IsBoundary t o) :
    bytes (weave f place t) = splice (fun o => bytes (f o)) place (bytes t) := by
  induction t generalizing place with
  | nil => rfl
  | cons c t ih =>
    have htail : bytes (weave f (place + c.utf8Size) t) =
        splice (fun o => bytes (f o)) (place + c.utf8Size) (bytes t) := by
      refine ih fun o ho hs => ?_
      rw [Nat.add_assoc] at ho
      have hb := (h (c.utf8Size + o) ho (by rw [byteSize_cons]; omega)).tail
        (by have := c.utf8Size_pos; omega)
      rw [Nat.add_sub_cancel_left] at hb
      exact hb.2
    have hinner : ∀ o, place < o → o < place + c.utf8Size → f o = [] := by
      intro o ho ho'
      refine Classical.byContradiction fun hf => ?_
      have ho'' : place + (o - place) = o := by omega
      have hb := (h (o - place) (ho''.symm ▸ hf) (by rw [byteSize_cons]; omega)).tail (by omega)
      omega
    -- the bytes of the character: the first one, and those at whose places nothing is put in
    have hc := String.length_utf8EncodeChar c
    rw [weave_cons, bytes_append, bytes_cons, bytes_cons, htail]
    cases he : String.utf8EncodeChar c with
    | nil =>
      have := c.utf8Size_pos
      rw [he, List.length_nil] at hc
      omega
    | cons b bs =>
      rw [he, List.length_cons] at hc
      have hbs : splice (fun o => bytes (f o)) (place + 1) (bs ++ bytes t) =
          bs ++ splice (fun o => bytes (f o)) (place + 1 + bs.length) (bytes t) :=
        splice_append _ fun o ho ho' => by rw [hinner o (by omega) (by omega), bytes_nil]
      rw [List.cons_append, List.cons_append, splice_cons, hbs, Nat.add_assoc, Nat.add_comm 1, hc]

/-- In front of characters at whose places nothing is put in, nothing changes. -/
theorem weave_append {f : Nat → Text} {place : Nat} {front : Text} (back : Text)
    (h : ∀ o, place ≤ o → o < place + byteSize front → f o = []) :
    weave f place (front ++ back) = front ++ weave f (place + byteSize front) back := by
  induction front generalizing place with
  | nil => rfl
  | cons c front ih =>
    rw [byteSize_cons] at h ⊢
    have hc := c.utf8Size_pos
    have hback : weave f (place + c.utf8Size) (front ++ back) =
        front ++ weave f (place + c.utf8Size + byteSize front) back :=
      ih fun o ho ho' => h o (by omega) (by omega)
    rw [List.cons_append, weave_cons, hback, h place (Nat.le_refl _) (by omega), List.nil_append,
      List.cons_append, Nat.add_assoc]

/-- Where nothing is put in up to the end of a text, nothing changes. -/
theorem weave_eq_self_of_le {f : Nat → Text} {place : Nat} {t : Text}
    (h : ∀ o, place ≤ o → o ≤ place + byteSize t → f o = []) : weave f place t = t := by
  have ht : weave f place (t ++ []) = t ++ weave f (place + byteSize t) [] :=
    weave_append [] fun o ho ho' => h o ho (Nat.le_of_lt ho')
  rw [List.append_nil] at ht
  rw [ht, weave_nil, h _ (Nat.le_add_right _ _) (Nat.le_refl _), List.append_nil]

/-- Where nothing is put in at all, nothing changes. -/
theorem weave_eq_self {f : Nat → Text} {place : Nat} (t : Text) (h : ∀ o, place ≤ o → f o = []) :
    weave f place t = t :=
  weave_eq_self_of_le fun o ho _ => h o ho

/-- Two parts of a text are woven apart if nothing is put in between them. -/
theorem weave_append_of_nil {f : Nat → Text} {place : Nat} {front : Text} (back : Text)
    (h : f (place + byteSize front) = []) :
    weave f place (front ++ back) =
      weave f place front ++ weave f (place + byteSize front) back := by
  induction front generalizing place with
  | nil =>
    rw [byteSize_nil, Nat.add_zero] at h ⊢
    rw [weave_nil, h, List.nil_append, List.nil_append]
  | cons c front ih =>
    rw [byteSize_cons, ← Nat.add_assoc] at h ⊢
    rw [List.cons_append, weave_cons, weave_cons, ih h, List.append_assoc, List.cons_append]

/-- What is put in first at the first place comes in front of all else. -/
theorem weave_of_append {f g : Nat → Text} {place : Nat} {x : Text} (t : Text)
    (h : f place = x ++ g place) (h' : ∀ o, place < o → f o = g o) :
    weave f place t = x ++ weave g place t := by
  have hcongr : ∀ (s : Text) (p : Nat), place < p → weave f p s = weave g p s := by
    intro s
    induction s with
    | nil => exact fun p hp => h' p hp
    | cons c s ih =>
      intro p hp
      rw [weave_cons, weave_cons, h' p hp, ih _ (by omega)]
  cases t with
  | nil => exact h
  | cons c t =>
    have hc := c.utf8Size_pos
    rw [weave_cons, weave_cons, h, hcongr t _ (by omega), List.append_assoc]

/-- What is put in between two parts of a text stands between them; the parts are woven without
it. -/
theorem weave_append_at {f : Nat → Text} {place : Nat} (front back : Text) :
    weave f place (front ++ back) =
      weave (fun o => if o = place + byteSize front then [] else f o) place front ++
        (f (place + byteSize front) ++
          weave (fun o => if o = place + byteSize front then [] else f o)
            (place + byteSize front) back) := by
  induction front generalizing place with
  | nil =>
    rw [byteSize_nil, Nat.add_zero, weave_nil, if_pos rfl, List.nil_append, List.nil_append]
    refine weave_of_append back ?_ fun o ho => (if_neg (Nat.ne_of_gt ho)).symm
    rw [if_pos rfl, List.append_nil]
  | cons c front ih =>
    have hc := c.utf8Size_pos
    rw [byteSize_cons, ← Nat.add_assoc, List.cons_append, weave_cons, weave_cons, ih,
      if_neg (by omega), List.append_assoc, List.cons_append]

/-- Behind a part of a text, its places are those of the rest. -/
theorem IsBoundary.of_append {front back : Text} {place : Nat}
    (h : IsBoundary (front ++ back) place) (hp : byteSize front ≤ place) :
    IsBoundary back (place - byteSize front) := by
  induction front generalizing place with
  | nil => exact h
  | cons c front ih =>
    rw [byteSize_cons] at hp ⊢
    have hc := c.utf8Size_pos
    have ht := ih (h.tail (by omega)).2 (by omega)
    rwa [Nat.sub_sub] at ht

/-- **Weaving texts in at increasing places inserts them**, each at its place. -/
theorem inserted_weave {f : Nat → Text} {place : Nat} {t : Text} (ps : List (Nat × Text))
    (hs : ps.Pairwise fun p q => p.1 < q.1)
    (hb : ∀ p ∈ ps, place ≤ p.1 ∧ IsBoundary t (p.1 - place))
    (hf : ∀ p ∈ ps, f p.1 = p.2) (hn : ∀ o, place ≤ o → o ∉ ps.map Prod.fst → f o = []) :
    Inserted (ps.map Prod.snd) t (weave f place t) := by
  induction ps generalizing f place t with
  | nil =>
    rw [weave_eq_self t fun o ho => hn o ho (by simp)]
    exact .rest t
  | cons p ps ih =>
    obtain ⟨hp, front, back, rfl, hsize⟩ := hb p (List.mem_cons_self ..)
    rw [List.pairwise_cons] at hs
    have hfront : ∀ o, place ≤ o → o < place + byteSize front → f o = [] := by
      intro o ho ho'
      refine hn o ho ?_
      rw [List.map_cons, List.mem_cons, List.mem_map]
      rintro (rfl | ⟨q, hq, rfl⟩)
      · omega
      · have := hs.1 q hq
        omega
    have hplace : place + byteSize front = p.1 := by omega
    -- the texts behind the first one
    let g : Nat → Text := fun o => if o = p.1 then [] else f o
    have hg : ∀ o, o ≠ p.1 → g o = f o := fun o ho => if_neg ho
    have hback : Inserted (ps.map Prod.snd) back (weave g p.1 back) := by
      refine ih hs.2 (fun q hq => ?_) (fun q hq => ?_) fun o ho hm => ?_
      · have hlt := hs.1 q hq
        have hq' := (hb q (List.mem_cons_of_mem _ hq)).2.of_append (by omega)
        rw [Nat.sub_sub, hplace] at hq'
        exact ⟨by omega, hq'⟩
      · have hlt := hs.1 q hq
        rw [hg q.1 (by omega), hf q (List.mem_cons_of_mem _ hq)]
      · by_cases ho' : o = p.1
        · exact if_pos ho'
        · rw [hg o ho', hn o (by omega)]
          rw [List.map_cons, List.mem_cons]
          exact fun h => h.elim ho' hm
    have hfirst : weave f p.1 back = p.2 ++ weave g p.1 back := by
      refine weave_of_append back ?_ fun o ho => (hg o (by omega)).symm
      rw [hf p (List.mem_cons_self ..), show g p.1 = [] from if_pos rfl, List.append_nil]
    rw [weave_append back hfront, hplace, hfirst, List.map_cons]
    exact .piece front p.2 hback

/-- **Weaving texts in at places that differ scatters them**: they stand in the order of the
places. -/
theorem scattered_weave {f : Nat → Text} {place : Nat} {t : Text} (ps : List (Nat × Text))
    (hs : ps.Pairwise fun p q => p.1 ≠ q.1)
    (hb : ∀ p ∈ ps, place ≤ p.1 ∧ IsBoundary t (p.1 - place))
    (hf : ∀ p ∈ ps, f p.1 = p.2) (hn : ∀ o, place ≤ o → o ∉ ps.map Prod.fst → f o = []) :
    Scattered (ps.map Prod.snd) t (weave f place t) := by
  let ordered := ps.mergeSort fun p q => p.1 ≤ q.1
  have hperm : ordered.Perm ps := List.mergeSort_perm ps _
  have hle : ordered.Pairwise fun p q => p.1 ≤ q.1 := by
    refine (List.pairwise_mergeSort (fun p q r hpq hqr => ?_) (fun p q => ?_) ps).imp
      of_decide_eq_true
    · exact decide_eq_true (Nat.le_trans (of_decide_eq_true hpq) (of_decide_eq_true hqr))
    · simpa only [Bool.or_eq_true, decide_eq_true_eq] using Nat.le_total p.1 q.1
  have hlt : ordered.Pairwise fun p q => p.1 < q.1 :=
    (hle.and ((hperm.pairwise_iff Ne.symm).2 hs)).imp fun h => Nat.lt_of_le_of_ne h.1 h.2
  refine ⟨_, hperm.map Prod.snd, inserted_weave ordered hlt (fun p hp => hb p (hperm.mem_iff.1 hp))
    (fun p hp => hf p (hperm.mem_iff.1 hp)) fun o ho ho' => hn o ho fun hm => ho' ?_⟩
  exact (hperm.map Prod.fst).mem_iff.2 hm

end Text

end UiHarness
