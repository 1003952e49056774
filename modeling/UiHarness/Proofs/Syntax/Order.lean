import UiHarness.Proofs.Syntax.Places

/-!
# The order of the elements of a file

Of two elements of a file the one that is visited first begins first.  It may contain the other one,
or the other one begins behind its end.  So far the order of the beginnings and the nesting say the
same.  The places at which attributes are put in do not follow that order: they lie behind the type
arguments of a tag, and the code of a computed name in a type may have elements of its own.  Such an
element is visited after the one with the tag, but the place for its attributes comes first.

* `Element.Inside`, `Element.InTypes`: an element inside another one, or in its type arguments.
* `Element.Precedes`: what is known of two elements, one visited before the other, and
  `Element.precedes_listFrom`, one induction for all of it.
* `Element.pairwise_start_list`: the elements come in the order of their beginnings.
* `Element.pairwise_head_list`: no two heads coincide.
-/

namespace UiHarness.Syntax

/-- The nodes among the type arguments of a node. -/
def Spot.types : Spot → List Spot
  | ⟨p, .element lead name types _ _ _⟩ => along (Node.named p lead name) types
  | _ => []

namespace Element

/-! ## 1.  Elements inside others -/

/-- The elements that are visited from a stack. -/
def among (stack : List Spot) : List Element := (walk stack).filterMap ofSpot?

theorem among_append (stack stack' : List Spot) :
    among (stack ++ stack') = among stack ++ among stack' := by
  simp only [among, walk_eq, List.flatMap_append, List.filterMap_append]

theorem among_along (p : Place) (ns : List Node) : among (Spot.along p ns) = listFrom p ns := by
  rw [among, walk_along, listFrom]

/-- An element that stands inside another one, in its tag or in its content, however deep.  The
outer one is one of the given nodes. -/
def Inside (spots : List Spot) (a b : Element) : Prop :=
  ∃ s ∈ spots, ofSpot? s = some a ∧ b ∈ among s.parts

/-- An element that stands in the type arguments of another one. -/
def InTypes (spots : List Spot) (a b : Element) : Prop :=
  ∃ s ∈ spots, ofSpot? s = some a ∧ b ∈ among s.types

/-- An element is made of its type arguments, its attributes and its content. -/
theorem among_parts (p : Place) (lead : Text) (name : Option TagName)
    (types attributes content : List Node) (closing : Option Text) :
    among (Spot.parts ⟨p, .element lead name types attributes content closing⟩) =
      listFrom (Node.named p lead name) types ++
        (listFrom (Node.head p lead name types) attributes ++
          listFrom (Node.tagStop (Node.head p lead name types) attributes closing) content) := by
  rw [Spot.parts, among_append, among_append, among_along, among_along, among_along]

/-- An element is a node with a tag. -/
theorem exists_of_ofSpot? {s : Spot} {e : Element} (h : ofSpot? s = some e) :
    ∃ p lead name types attributes content closing,
      s = ⟨p, .element lead name types attributes content closing⟩ ∧
        e = ofTag p lead name types attributes content closing := by
  obtain ⟨p, n⟩ := s
  cases n with
  | token t => cases h
  | importStatement t bs => cases h
  | attr name link quoted code => cases h
  | element lead name types attributes content closing =>
    exact ⟨p, lead, name, types, attributes, content, closing, rfl, (Option.some.inj h).symm⟩

/-- What stands in the type arguments stands inside. -/
theorem InTypes.inside {spots : List Spot} {a b : Element} (h : InTypes spots a b) :
    Inside spots a b := by
  obtain ⟨s, hs, ha, hb⟩ := h
  obtain ⟨p, lead, name, types, attributes, content, closing, rfl, rfl⟩ := exists_of_ofSpot? ha
  rw [Spot.types, among_along] at hb
  exact ⟨_, hs, ha, by rw [among_parts]; exact List.mem_append_left _ hb⟩

/-- An element inside another one lies between its beginning and its end. -/
theorem Inside.bounds {spots : List Spot} {a b : Element} (h : Inside spots a b) :
    a.start.offset < b.start.offset ∧ b.stop.offset ≤ a.stop.offset := by
  obtain ⟨s, -, ha, hb⟩ := h
  obtain ⟨p, lead, name, types, attributes, content, closing, rfl, rfl⟩ := exists_of_ofSpot? ha
  have htag : 0 < (tagText lead name []).byteSize := Text.byteSize_pos (List.cons_ne_nil _ _)
  have hstart : (ofTag p lead name types attributes content closing).start.offset = p.offset := rfl
  have hnamed := offset_named p lead name
  have hhead := offset_head p lead name types
  have htagStop := offset_tagStop (Node.head p lead name types) attributes closing
  rw [offset_stop_ofTag]
  rw [among_parts, List.mem_append, List.mem_append] at hb
  rcases hb with hb | hb | hb
  all_goals
    have hbounds := bounds_of_mem_listFrom hb
    omega

/-- An element in the type arguments of another one ends in front of its head. -/
theorem InTypes.stop_le {spots : List Spot} {a b : Element} (h : InTypes spots a b) :
    b.stop.offset ≤ a.head.offset := by
  obtain ⟨s, -, ha, hb⟩ := h
  obtain ⟨p, lead, name, types, attributes, content, closing, rfl, rfl⟩ := exists_of_ofSpot? ha
  rw [Spot.types, among_along] at hb
  have hhead : (ofTag p lead name types attributes content closing).head.offset =
    (Node.head p lead name types).offset := rfl
  rw [hhead, offset_head]
  exact (bounds_of_mem_listFrom hb).2.2.2

/-! ## 2.  One before the other -/

/-- What is known of an element and one that is visited after it, among some nodes. -/
structure Precedes (spots : List Spot) (a b : Element) : Prop where
  /-- It begins first. -/
  starts : a.start.offset < b.start.offset
  /-- It contains the other one, or ends in front of it. -/
  spans : Inside spots a b ∨ a.stop.offset ≤ b.start.offset
  /-- It has the other one in its type arguments, or its head is in front of it. -/
  heads : InTypes spots a b ∨ a.head.offset ≤ b.start.offset

/-- An element precedes those behind its end. -/
theorem Precedes.of_stop_le {spots : List Spot} {a b : Element}
    (hstart : a.start.offset < a.head.offset) (hhead : a.head.offset < a.stop.offset)
    (h : a.stop.offset ≤ b.start.offset) : Precedes spots a b :=
  ⟨by omega, .inr h, .inr (by omega)⟩

/-- An element precedes those inside it. -/
theorem precedes_parts {spots : List Spot} {p : Place} {lead : Text} {name : Option TagName}
    {types attributes content : List Node} {closing : Option Text}
    (hs : ⟨p, .element lead name types attributes content closing⟩ ∈ spots) {b : Element}
    (hb : b ∈ listFrom (Node.named p lead name) types ++
      (listFrom (Node.head p lead name types) attributes ++
        listFrom (Node.tagStop (Node.head p lead name types) attributes closing) content)) :
    Precedes spots (ofTag p lead name types attributes content closing) b := by
  have hinside : Inside spots (ofTag p lead name types attributes content closing) b :=
    ⟨_, hs, rfl, by rwa [among_parts]⟩
  refine ⟨hinside.bounds.1, .inl hinside, ?_⟩
  have hhead : (ofTag p lead name types attributes content closing).head.offset =
    (Node.head p lead name types).offset := rfl
  rw [List.mem_append, List.mem_append] at hb
  rcases hb with hb | hb | hb
  · exact .inl ⟨_, hs, rfl, by rwa [Spot.types, among_along]⟩
  · exact .inr (bounds_of_mem_listFrom hb).1
  · have hcontent := (bounds_of_mem_listFrom hb).1
    rw [offset_tagStop] at hcontent
    exact .inr (by omega)

mutual

/-- The elements of a node precede those that are visited after them. -/
theorem precedes_ofNode (spots : List Spot) (p : Place) (n : Node)
    (h : Spot.preorder p n ⊆ spots) : (ofNode p n).Pairwise (Precedes spots) := by
  match n with
  | .token t => rw [ofNode_token]; exact .nil
  | .importStatement t bs => rw [ofNode_importStatement]; exact .nil
  | .attr name link quoted code =>
    rw [Spot.preorder] at h
    rw [ofNode_attr]
    exact precedes_listFrom spots _ code (List.subset_of_cons_subset h)
  | .element lead name types attributes content closing =>
    rw [Spot.preorder] at h
    obtain ⟨hs, h⟩ := List.cons_subset.1 h
    obtain ⟨htypes, h⟩ := List.append_subset.1 h
    obtain ⟨hattributes, hcontent⟩ := List.append_subset.1 h
    rw [ofNode_element]
    refine List.pairwise_cons.2 ⟨fun b hb => precedes_parts hs hb, List.pairwise_append.2
      ⟨precedes_listFrom spots _ types htypes, List.pairwise_append.2
        ⟨precedes_listFrom spots _ attributes hattributes,
          precedes_listFrom spots _ content hcontent, fun a ha b hb => ?_⟩, fun a ha b hb => ?_⟩⟩
    · have ha' := bounds_of_mem_listFrom ha
      have hb' := bounds_of_mem_listFrom hb
      rw [offset_tagStop] at hb'
      exact .of_stop_le ha'.2.1 ha'.2.2.1 (by omega)
    · have ha' := bounds_of_mem_listFrom ha
      rw [← offset_head] at ha'
      refine .of_stop_le ha'.2.1 ha'.2.2.1 ?_
      rcases List.mem_append.1 hb with hb | hb
      · have hb' := bounds_of_mem_listFrom hb
        omega
      · have hb' := bounds_of_mem_listFrom hb
        rw [offset_tagStop] at hb'
        omega

/-- The elements of a list of nodes precede those that are visited after them. -/
theorem precedes_listFrom (spots : List Spot) (p : Place) (ns : List Node)
    (h : Spot.preorderOf p ns ⊆ spots) : (listFrom p ns).Pairwise (Precedes spots) := by
  match ns with
  | [] => rw [listFrom_nil]; exact .nil
  | n :: ns =>
    rw [Spot.preorderOf] at h
    obtain ⟨hn, hns⟩ := List.append_subset.1 h
    rw [listFrom_cons]
    refine List.pairwise_append.2
      ⟨precedes_ofNode spots p n hn, precedes_listFrom spots _ ns hns, fun a ha b hb => ?_⟩
    have ha' := bounds_of_mem_ofNode ha
    have hb' := bounds_of_mem_listFrom hb
    rw [offset_stop] at hb'
    exact .of_stop_le ha'.2.1 ha'.2.2.1 (by omega)

end

/-- **The elements of a file precede those that are visited after them.** -/
theorem precedes_list (ns : List Node) : (list ns).Pairwise (Precedes (Spot.preorderOf {} ns)) := by
  rw [list_eq]
  exact precedes_listFrom _ {} ns (List.Subset.refl _)

/-- **The elements of a file come in the order of their beginnings.** -/
theorem pairwise_start_list (ns : List Node) :
    (list ns).Pairwise fun a b => a.start.offset < b.start.offset :=
  (precedes_list ns).imp Precedes.starts

/-- **No two heads of elements of a file coincide.** -/
theorem pairwise_head_list (ns : List Node) :
    (list ns).Pairwise fun a b => a.head.offset ≠ b.head.offset := by
  refine (precedes_list ns).imp_of_mem fun {a b} _ hb hab => ?_
  have hbounds := bounds_of_mem_listFrom (list_eq ns ▸ hb)
  rcases hab.heads with htypes | hhead
  · have := htypes.stop_le
    omega
  · omega

/-- Elements of a file with one head are one element. -/
theorem eq_of_head {nodes : List Node} {e e' : Element} (he : e ∈ list nodes)
    (he' : e' ∈ list nodes) (h : e.head.offset = e'.head.offset) : e = e' := by
  obtain ⟨i, hi, rfl⟩ := List.mem_iff_getElem.1 he
  obtain ⟨j, hj, rfl⟩ := List.mem_iff_getElem.1 he'
  have hall := List.pairwise_iff_getElem.1 (pairwise_head_list nodes)
  rcases Nat.lt_trichotomy i j with hij | rfl | hij
  · exact absurd h (hall i j hi hj hij)
  · rfl
  · exact absurd h.symm (hall j i hj hi hij)

end Element

end UiHarness.Syntax
