import UiHarness.Proofs.Text.Splice
import UiHarness.Syntax.Draft

/-!
# The text of a draft

A draft puts its insertions in order and then walks along the bytes of the file with them.  This
module says that the outcome is the declarative one.

* `Draft.filter_ordered`: the order is stable, so the insertions at one offset keep the order in
  which they were made.
* `Draft.merge_eq_splice`: the walk gives the bytes of the file, with the texts at each offset in
  front of the byte there.
* `Draft.text_eq_weave`: with insertions that do not lie inside a character, the draft has a text,
  and it is the file with the texts at each offset woven in.
-/

namespace UiHarness.Syntax.Draft

/-! ## 1.  The order of insertions -/

/-- Insertions of which none comes behind one of a greater offset. -/
abbrev Ordered (is : List Insertion) : Prop := is.Pairwise fun i j => i.offset ≤ j.offset

theorem mem_place {i k : Insertion} {js : List Insertion} : k ∈ place i js ↔ k = i ∨ k ∈ js := by
  induction js with
  | nil => simp [place]
  | cons j js ih =>
    rw [place]
    split
    · rw [List.mem_cons, ih, List.mem_cons, or_left_comm]
    · rw [List.mem_cons]

theorem ordered_place (i : Insertion) {js : List Insertion} (h : Ordered js) :
    Ordered (place i js) := by
  induction js with
  | nil => exact List.pairwise_singleton _ _
  | cons j js ih =>
    have h := List.pairwise_cons.1 h
    rw [place]
    split
    · rename_i hji
      refine List.pairwise_cons.2 ⟨fun k hk => ?_, ih h.2⟩
      rcases mem_place.1 hk with rfl | hk
      · exact hji
      · exact h.1 k hk
    · rename_i hji
      refine List.pairwise_cons.2 ⟨fun k hk => ?_, List.pairwise_cons.2 h⟩
      rcases List.mem_cons.1 hk with rfl | hk
      · omega
      · have := h.1 k hk
        omega

/-- An insertion is placed behind those of its own offset. -/
theorem filter_place (i : Insertion) {js : List Insertion} (h : Ordered js) (o : Int) :
    (place i js).filter (·.offset = o) =
      js.filter (·.offset = o) ++ [i].filter (·.offset = o) := by
  induction js with
  | nil => rfl
  | cons j js ih =>
    have h := List.pairwise_cons.1 h
    rw [place]
    split
    · rw [List.filter_cons, List.filter_cons, ih h.2]
      split
      · rfl
      · rfl
    · rename_i hji
      by_cases hi : i.offset = o
      · -- all others have a greater offset
        have hnone : (j :: js).filter (·.offset = o) = [] := by
          refine List.filter_eq_nil_iff.2 fun k hk => ?_
          rw [decide_eq_true_eq]
          rcases List.mem_cons.1 hk with rfl | hk
          · omega
          · have := h.1 k hk
            omega
        rw [List.filter_cons, hnone, List.nil_append, List.filter_cons, List.filter_nil]
      · have hfront : (i :: j :: js).filter (·.offset = o) = (j :: js).filter (·.offset = o) :=
          List.filter_cons_of_neg (by simpa using hi)
        have hnone : [i].filter (·.offset = o) = [] := List.filter_cons_of_neg (by simpa using hi)
        rw [hfront, hnone, List.append_nil]

/-- Placing insertions one by one keeps the order, and those of one offset as they come. -/
theorem ordered_foldl_place (is : List Insertion) {js : List Insertion} (h : Ordered js) (o : Int) :
    Ordered (is.foldl (fun js i => place i js) js) ∧
      (is.foldl (fun js i => place i js) js).filter (·.offset = o) =
        js.filter (·.offset = o) ++ is.filter (·.offset = o) := by
  induction is generalizing js with
  | nil => exact ⟨h, by rw [List.foldl_nil, List.filter_nil, List.append_nil]⟩
  | cons i is ih =>
    obtain ⟨hord, hfilter⟩ := ih (ordered_place i h)
    refine ⟨hord, ?_⟩
    rw [List.foldl_cons, hfilter, filter_place i h, List.append_assoc, ← List.filter_append,
      List.singleton_append]

theorem ordered_ordered (is : List Insertion) : Ordered (ordered is) :=
  (ordered_foldl_place is List.Pairwise.nil 0).1

/-- **The order is stable.** -/
theorem filter_ordered (is : List Insertion) (o : Int) :
    (ordered is).filter (·.offset = o) = is.filter (·.offset = o) :=
  (ordered_foldl_place is List.Pairwise.nil o).2

theorem mem_ordered {i : Insertion} {is : List Insertion} : i ∈ ordered is ↔ i ∈ is := by
  have h := congrArg (fun l => i ∈ l) (filter_ordered is i.offset)
  simpa only [List.mem_filter, decide_true, and_true, eq_iff_iff] using h

/-! ## 2.  The walk -/

/-- The bytes that some insertions put in at an offset. -/
def bytesAt (is : List Insertion) (o : Nat) : List UInt8 :=
  (is.filter (·.offset = (o : Int))).flatMap fun i => Text.bytes i.text

theorem position_of_nat {size o : Nat} (h : o ≤ size) : position size o = o := by
  rw [position, if_neg (by omega), Int.toNat_natCast, Nat.min_eq_left h]

/-- **The walk along the bytes of a file puts the texts at each offset in front of the byte
there.** -/
theorem merge_eq_splice {bytes : List UInt8} {start : Nat} {is : List Insertion} (h : Ordered is)
    (hs : start ≤ bytes.length)
    (hi : ∀ i ∈ is, ∃ o : Nat, i.offset = o ∧ start ≤ o ∧ o ≤ bytes.length) :
    merge bytes start is = splice (bytesAt is) start (bytes.drop start) := by
  induction is generalizing start with
  | nil => exact (splice_eq_self fun o _ _ => rfl).symm
  | cons i is ih =>
    obtain ⟨o, ho, hso, hlen⟩ := hi i (List.mem_cons_self ..)
    have h := List.pairwise_cons.1 h
    have hrest : ∀ j ∈ is, ∃ o' : Nat, j.offset = o' ∧ o ≤ o' ∧ o' ≤ bytes.length := by
      intro j hj
      obtain ⟨o', ho', -, hlen'⟩ := hi j (List.mem_cons_of_mem _ hj)
      have := h.1 j hj
      exact ⟨o', ho', by omega, hlen'⟩
    have hbefore : ∀ o', start ≤ o' → o' < o → bytesAt (i :: is) o' = [] := by
      intro o' _ ho''
      rw [bytesAt, List.filter_eq_nil_iff.2, List.flatMap_nil]
      intro j hj
      rw [decide_eq_true_eq]
      rcases List.mem_cons.1 hj with rfl | hj
      · omega
      · have := h.1 j hj
        omega
    have hat : bytesAt (i :: is) o = Text.bytes i.text ++ bytesAt is o := by
      rw [bytesAt, List.filter_cons_of_pos (by rw [decide_eq_true_eq, ho]), List.flatMap_cons,
        bytesAt]
    have hbehind : ∀ o', o < o' → bytesAt (i :: is) o' = bytesAt is o' := by
      intro o' ho''
      rw [bytesAt, List.filter_cons_of_neg (by rw [decide_eq_true_eq]; omega), bytesAt]
    have hcut : bytes.drop start = (bytes.take o).drop start ++ bytes.drop o := by
      have htake : start ≤ (bytes.take o).length := by
        rw [List.length_take, Nat.min_eq_left hlen]
        exact hso
      rw [← List.drop_append_of_le_length htake, List.take_append_drop]
    have hfront : ((bytes.take o).drop start).length = o - start := by
      rw [List.length_drop, List.length_take, Nat.min_eq_left hlen]
    rw [merge, ho, position_of_nat hlen, ih h.2 hlen hrest, hcut,
      splice_append _ fun o' h₁ h₂ => hbefore o' h₁ (by omega), hfront,
      Nat.add_sub_cancel' hso, splice_of_append _ hat hbehind, List.append_assoc, Text.bytes]

/-! ## 3.  The text -/

/-- The texts at an offset, one behind the other. -/
def textAt (d : Draft) (o : Nat) : Text := (d.textsAt o).flatten

theorem bytesAt_eq (d : Draft) (o : Nat) : bytesAt d.insertions o = Text.bytes (d.textAt o) := by
  rw [bytesAt, textAt, textsAt]
  induction d.insertions.filter (·.offset = (o : Int)) with
  | nil => rfl
  | cons i is ih => rw [List.flatMap_cons, ih, List.map_cons, List.flatten_cons, Text.bytes_append]

theorem bytesAt_ordered (is : List Insertion) (o : Nat) :
    bytesAt (ordered is) o = bytesAt is o := by
  rw [bytesAt, filter_ordered, bytesAt]

theorem exists_of_textAt_ne_nil {d : Draft} {o : Nat} (h : d.textAt o ≠ []) :
    ∃ i ∈ d.insertions, i.offset = o := by
  refine Classical.byContradiction fun hn => h ?_
  rw [textAt, textsAt, List.filter_eq_nil_iff.2, List.map_nil, List.flatten_nil]
  intro i hi
  rw [decide_eq_true_eq]
  exact fun ho => hn ⟨i, hi, ho⟩

/-- The texts at each offset, woven into a file, put in their bytes there. -/
theorem bytes_weave_textAt {d : Draft}
    (h : ∀ i ∈ d.insertions, ∃ o : Nat, i.offset = o ∧ d.source.IsBoundary o) :
    Text.bytes (Text.weave d.textAt 0 d.source) =
      splice (bytesAt d.insertions) 0 (Text.bytes d.source) := by
  rw [Text.bytes_weave, funext (bytesAt_eq d)]
  intro o ho _
  rw [Nat.zero_add] at ho
  obtain ⟨i, hi, hio⟩ := exists_of_textAt_ne_nil ho
  obtain ⟨o', ho', hb⟩ := h i hi
  have : o = o' := by omega
  exact this ▸ hb

/-- **The text of a draft** whose insertions do not lie inside a character: the file with the texts
at each offset woven in. -/
theorem text_eq_weave {d : Draft}
    (h : ∀ i ∈ d.insertions, ∃ o : Nat, i.offset = o ∧ d.source.IsBoundary o) :
    d.text = .ok (Text.weave d.textAt 0 d.source) := by
  have hle : ∀ o, d.source.IsBoundary o → o ≤ d.source.byteSize := by
    rintro o ⟨front, back, hs, rfl⟩
    rw [hs, Text.byteSize_append]
    exact Nat.le_add_right _ _
  rw [text, isModified]
  cases hd : d.insertions.isEmpty with
  | true =>
    rw [List.isEmpty_iff] at hd
    have hnone : ∀ o, d.textAt o = [] := fun o => by rw [textAt, textsAt, hd]; rfl
    rw [Text.weave_eq_self _ fun o _ => hnone o]
    rfl
  | false =>
    have hmerge : merge (Text.bytes d.source) 0 (ordered d.insertions) =
        Text.bytes (Text.weave d.textAt 0 d.source) := by
      rw [merge_eq_splice (ordered_ordered _) (Nat.zero_le _), List.drop_zero,
        bytes_weave_textAt h]
      · exact splice_congr fun o _ _ => bytesAt_ordered _ _
      · intro i hi
        obtain ⟨o, ho, hb⟩ := h i (mem_ordered.1 hi)
        exact ⟨o, ho, Nat.zero_le _, by rw [Text.length_bytes]; exact hle o hb⟩
    have hdecode := Text.decode_encode (Text.weave d.textAt 0 d.source)
    rw [Text.encode_eq_of_bytes hmerge.symm] at hdecode
    exact hdecode

end UiHarness.Syntax.Draft
