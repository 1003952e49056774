import UiHarness.Proofs.Syntax.Merge

/-!
# Insertions in any order

Insertions are collected one after the other, at any offsets and in any order, and only then put in.
What comes out is said byte by byte, with no word on the order in which the draft goes about it: in
front of each byte of the file stand the texts that were to be inserted at its offset, in the order
in which they were asked for.  So only insertions at one offset have an order among themselves.

* `Draft.insertAll`: a draft with some insertions made one after the other.
* `Draft.ordered_swap`: insertions at different offsets may change places.
* `Draft.Merged`, `Draft.exists_merged`: the text that comes out.
-/

namespace UiHarness.Syntax.Draft

/-! ## 1.  Insertions one after the other -/

/-- A draft with some insertions made one after the other. -/
def insertAll (d : Draft) (is : List Insertion) : Draft :=
  is.foldl (fun d i => d.insert i.offset i.text) d

@[simp] theorem insertions_insertAll (d : Draft) (is : List Insertion) :
    (d.insertAll is).insertions = d.insertions ++ is := by
  induction is generalizing d with
  | nil => exact (List.append_nil _).symm
  | cons i is ih =>
    rw [insertAll, List.foldl_cons, ← insertAll, ih, insertions_insert, List.append_assoc,
      List.singleton_append]

@[simp] theorem nodes_insertAll (d : Draft) (is : List Insertion) :
    (d.insertAll is).nodes = d.nodes := by
  induction is generalizing d with
  | nil => rfl
  | cons i is ih => rw [insertAll, List.foldl_cons, ← insertAll, ih, nodes_insert]

/-! ## 2.  Insertions that change places -/

theorem place_cons_of_le {i j : Insertion} (h : j.offset ≤ i.offset) (is : List Insertion) :
    place i (j :: is) = j :: place i is := if_pos h

theorem place_cons_of_lt {i j : Insertion} (h : i.offset < j.offset) (is : List Insertion) :
    place i (j :: is) = i :: j :: is := if_neg (Int.not_le.2 h)

/-- Insertions at different offsets may be placed in either order. -/
theorem place_place {i j : Insertion} (h : i.offset < j.offset) (is : List Insertion) :
    place i (place j is) = place j (place i is) := by
  induction is with
  | nil =>
    rw [place, place, place_cons_of_lt h, place_cons_of_le (Int.le_of_lt h), place]
  | cons k is ih =>
    rcases Int.lt_or_le i.offset k.offset with hi | hi
    · rw [place_cons_of_lt hi, place_cons_of_le (Int.le_of_lt h)]
      rcases Int.lt_or_le j.offset k.offset with hj | hj
      · rw [place_cons_of_lt hj, place_cons_of_lt h]
      · rw [place_cons_of_le hj, place_cons_of_lt hi]
    · have hj : k.offset ≤ j.offset := by omega
      rw [place_cons_of_le hj, place_cons_of_le hi, place_cons_of_le hi, place_cons_of_le hj, ih]

/-- **Neighbours at different offsets may change places.** -/
theorem ordered_swap {i j : Insertion} (h : i.offset ≠ j.offset) (front back : List Insertion) :
    ordered (front ++ j :: i :: back) = ordered (front ++ i :: j :: back) := by
  have hplace : ∀ is, place i (place j is) = place j (place i is) := fun is => by
    rcases Int.lt_or_gt_of_ne h with hij | hji
    · exact place_place hij is
    · exact (place_place hji is).symm
  rw [ordered, ordered, List.foldl_append, List.foldl_append, List.foldl_cons, List.foldl_cons,
    List.foldl_cons, List.foldl_cons, hplace]

/-- The text with insertions is the same when two neighbours at different offsets have changed
places. -/
theorem text_swap {i j : Insertion} (h : i.offset ≠ j.offset) (d : Draft)
    (front back : List Insertion) :
    (d.insertAll (front ++ j :: i :: back)).text =
      (d.insertAll (front ++ i :: j :: back)).text := by
  have hordered := ordered_swap h (d.insertions ++ front) back
  have hmodified : ∀ k l, (d.insertAll (front ++ k :: l :: back)).isModified = true :=
    fun k l => by simp [isModified]
  rw [text, text, hmodified, hmodified, source, source]
  simp only [nodes_insertAll, insertions_insertAll, ← List.append_assoc, hordered]

/-! ## 3.  What comes out -/

/-- The text of a file with insertions. -/
structure Merged (nodes : List Node) (is : List Insertion) (out : Text) : Prop where
  /-- The insertions can be made. -/
  text : (insertAll { nodes } is).text = .ok out
  /-- In front of the byte at each offset, and at the end of the file, stand the texts for this
  offset, in the order in which they were asked for. -/
  bytes : Text.bytes out = (List.range ((Text.bytes (Node.textOf nodes)).length + 1)).flatMap
    fun o => bytesAt is o ++ (Text.bytes (Node.textOf nodes))[o]?.toList
  /-- Without insertions it is the file. -/
  plain : is = [] → out = Node.textOf nodes
  /-- Without the texts that were put in, it is the file. -/
  removed : Inserted ((List.range ((Text.bytes (Node.textOf nodes)).length + 1)).map (bytesAt is))
    (Text.bytes (Node.textOf nodes)) (Text.bytes out)
  /-- Neighbours at different offsets may change places. -/
  swapped : ∀ front i j back, is = front ++ i :: j :: back → i.offset ≠ j.offset →
    (insertAll { nodes } (front ++ j :: i :: back)).text = .ok out

/-- **The text of a file with insertions**, none of which lies inside a character, whatever the
order in which they are made. -/
theorem exists_merged {nodes : List Node} {is : List Insertion}
    (h : ∀ i ∈ is, ∃ o : Nat, i.offset = o ∧ (Node.textOf nodes).IsBoundary o) :
    ∃ out, Merged nodes is out := by
  have hinsertions : (insertAll { nodes } is).insertions = is := insertions_insertAll _ _
  have hsource : (insertAll { nodes } is).source = Node.textOf nodes := by
    rw [source, nodes_insertAll]
  have hbounds : ∀ i ∈ (insertAll { nodes } is).insertions,
      ∃ o : Nat, i.offset = o ∧ (insertAll { nodes } is).source.IsBoundary o := by
    rw [hinsertions, hsource]
    exact h
  have htext := text_eq_weave hbounds
  have hbytes := bytes_weave_textAt hbounds
  generalize Text.weave _ 0 _ = out at htext hbytes
  rw [hinsertions, hsource] at hbytes
  refine ⟨out, htext, ?_, ?_, ?_, ?_⟩
  · rw [hbytes, splice_eq_flatMap, List.range_eq_range']
    rfl
  · rintro rfl
    exact (Except.ok.inj htext).symm
  · rw [hbytes, List.range_eq_range']
    exact inserted_splice (bytesAt is) 0 _
  · rintro front i j back rfl hne
    rw [text_swap hne, htext]

/-- Insertions at the end, in the middle and at the beginning of a text of two characters. -/
def fourInsertions : List Insertion := [⟨3, "d"⟩, ⟨1, "b"⟩, ⟨1, "c"⟩, ⟨0, "\u00fc"⟩]

/-- The case of a text with a character of two bytes. -/
theorem exists_merged_fourInsertions :
    (∀ i ∈ fourInsertions, ∃ o : Nat, i.offset = o ∧
      (Node.textOf [.token "a\u00e9"]).IsBoundary o) ∧
    ∃ out, Merged [.token "a\u00e9"] fourInsertions out := by
  have hbounds : ∀ i ∈ fourInsertions, ∃ o : Nat, i.offset = o ∧
      (Node.textOf [.token "a\u00e9"]).IsBoundary o := by
    rw [fourInsertions, List.forall_mem_cons, List.forall_mem_cons, List.forall_mem_cons,
      List.forall_mem_singleton]
    exact ⟨⟨3, rfl, "a\u00e9", [], by decide, by decide⟩,
      ⟨1, rfl, "a", "\u00e9", by decide, by decide⟩,
      ⟨1, rfl, "a", "\u00e9", by decide, by decide⟩, ⟨0, rfl, [], "a\u00e9", by decide, by decide⟩⟩
  exact ⟨hbounds, exists_merged hbounds⟩

example : (insertAll { nodes := [.token "a\u00e9"] } fourInsertions).text.toOption =
    some "\u00fcabc\u00e9d".toList := by
  decide +kernel

end UiHarness.Syntax.Draft
