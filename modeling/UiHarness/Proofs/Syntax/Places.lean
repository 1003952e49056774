import UiHarness.Proofs.Syntax.Walk
import UiHarness.Proofs.Text.Splice

/-!
# Where the elements of a file stand

A file is a list of nodes, and its elements are found by walking along them.  The places that the
walk gives are needed wherever a file is changed at an element.

* `Element.Occurs`: an element of a file, wherever it is nested.  The walk comes to all of them and
  to nothing else (`Element.mem_listFrom_iff`), so what holds of all elements is shown by induction
  on this relation.
* `Element.StandsIn`: the opening tag of an element is written in the file where the element
  begins, and its head is the place behind the name and the type arguments in it.  All elements of
  a file stand in it (`Element.standsIn_of_mem_list`).
* `Element.bounds_of_mem_listFrom`: an element begins in front of its head and ends behind it.
-/

namespace UiHarness.Syntax

namespace Element

/-! ## 1.  Which elements there are -/

/-- An element of a list of nodes that starts at a place: one of the nodes, or an element inside the
type arguments, the attributes or the content of one, or in the code of an attribute, however
deep. -/
inductive Occurs : Place → List Node → Element → Prop
  | self {p : Place} {lead : Text} {name : Option TagName}
      {types attributes content : List Node} {closing : Option Text} {ns : List Node} :
      Occurs p (.element lead name types attributes content closing :: ns)
        (ofTag p lead name types attributes content closing)
  | inTypes {p : Place} {lead : Text} {name : Option TagName}
      {types attributes content : List Node} {closing : Option Text} {ns : List Node} {e : Element} :
      Occurs (Node.named p lead name) types e →
        Occurs p (.element lead name types attributes content closing :: ns) e
  | inTag {p : Place} {lead : Text} {name : Option TagName}
      {types attributes content : List Node} {closing : Option Text} {ns : List Node} {e : Element} :
      Occurs (Node.head p lead name types) attributes e →
        Occurs p (.element lead name types attributes content closing :: ns) e
  | inContent {p : Place} {lead : Text} {name : Option TagName}
      {types attributes content : List Node} {closing : Option Text} {ns : List Node} {e : Element} :
      Occurs (Node.tagStop (Node.head p lead name types) attributes closing) content e →
        Occurs p (.element lead name types attributes content closing :: ns) e
  | inCode {p : Place} {name link : Text} {quoted : Option Text} {code ns : List Node}
      {e : Element} :
      Occurs (p.behind (name ++ link ++ quoted.getD [])) code e →
        Occurs p (.attr name link quoted code :: ns) e
  | behind {p : Place} {n : Node} {ns : List Node} {e : Element} :
      Occurs (n.stop p) ns e → Occurs p (n :: ns) e

/-- The walk comes to each element. -/
theorem Occurs.mem_listFrom {p : Place} {ns : List Node} {e : Element} (h : Occurs p ns e) :
    e ∈ listFrom p ns := by
  induction h with
  | self =>
    rw [listFrom_cons, ofNode_element]
    exact List.mem_append_left _ (List.mem_cons_self ..)
  | inTypes _ ih =>
    rw [listFrom_cons, ofNode_element]
    exact List.mem_append_left _ (List.mem_cons_of_mem _ (List.mem_append_left _ ih))
  | inTag _ ih =>
    rw [listFrom_cons, ofNode_element]
    exact List.mem_append_left _
      (List.mem_cons_of_mem _ (List.mem_append_right _ (List.mem_append_left _ ih)))
  | inContent _ ih =>
    rw [listFrom_cons, ofNode_element]
    exact List.mem_append_left _
      (List.mem_cons_of_mem _ (List.mem_append_right _ (List.mem_append_right _ ih)))
  | inCode _ ih =>
    rw [listFrom_cons, ofNode_attr]
    exact List.mem_append_left _ ih
  | behind _ ih =>
    rw [listFrom_cons]
    exact List.mem_append_right _ ih

mutual

/-- The walk along a node comes to elements only. -/
theorem occurs_of_mem_ofNode (p : Place) (n : Node) (ns : List Node) :
    ∀ e ∈ ofNode p n, Occurs p (n :: ns) e := by
  match n with
  | .token t => exact fun e he => absurd he (by simp)
  | .importStatement t bs => exact fun e he => absurd he (by simp)
  | .attr name link quoted code =>
    intro e he
    rw [ofNode_attr] at he
    exact .inCode (occurs_of_mem_listFrom _ code e he)
  | .element lead name types attributes content closing =>
    intro e he
    rw [ofNode_element, List.mem_cons, List.mem_append, List.mem_append] at he
    rcases he with rfl | he | he | he
    · exact .self
    · exact .inTypes (occurs_of_mem_listFrom _ types e he)
    · exact .inTag (occurs_of_mem_listFrom _ attributes e he)
    · exact .inContent (occurs_of_mem_listFrom _ content e he)

/-- The walk along a list of nodes comes to elements only. -/
theorem occurs_of_mem_listFrom (p : Place) (ns : List Node) :
    ∀ e ∈ listFrom p ns, Occurs p ns e := by
  match ns with
  | [] => exact fun e he => absurd he (by simp)
  | n :: ns =>
    intro e he
    rw [listFrom_cons, List.mem_append] at he
    rcases he with he | he
    · exact occurs_of_mem_ofNode p n ns e he
    · exact .behind (occurs_of_mem_listFrom _ ns e he)

end

/-- **The walk comes to the elements of a list of nodes**, to each one and to nothing else. -/
theorem mem_listFrom_iff {p : Place} {ns : List Node} {e : Element} :
    e ∈ listFrom p ns ↔ Occurs p ns e :=
  ⟨occurs_of_mem_listFrom p ns e, Occurs.mem_listFrom⟩

/-! ## 2.  Tags in a text -/

/-- The text in an opening tag up to its attributes. -/
def tagText (lead : Text) (name : Option TagName) (types : Text) : Text :=
  '<' :: lead ++ (name.map TagName.text).getD [] ++ types

/-- An element that stands in a text that begins at a place: what is in front of its tag, and what
is behind the head of the tag. -/
def StandsIn (e : Element) (p : Place) (t : Text) : Prop :=
  ∃ before lead types behind, t = before ++ (tagText lead e.name types ++ behind) ∧
    e.start = p.behind before ∧ e.head = e.start.behind (tagText lead e.name types)

/-- The name stands in front of the type arguments. -/
theorem tagText_eq (lead : Text) (name : Option TagName) (types : Text) :
    tagText lead name types = tagText lead name [] ++ types := by
  rw [tagText, tagText, List.append_nil]

theorem named_eq (p : Place) (lead : Text) (name : Option TagName) :
    Node.named p lead name = p.behind (tagText lead name []) := by
  rw [Node.named, tagText, List.append_nil]

/-- The head is the place behind the name and the type arguments. -/
theorem head_eq (p : Place) (lead : Text) (name : Option TagName) (types : List Node) :
    Node.head p lead name types = p.behind (tagText lead name (Node.textOf types)) := by
  rw [Node.head, Node.stopOf_eq, named_eq, ← Place.behind_append, ← tagText_eq]

theorem tagStop_eq (head : Place) (attributes : List Node) (closing : Option Text) :
    Node.tagStop head attributes closing =
      (head.behind (Node.textOf attributes)).behind (Node.tagEnd closing) := by
  rw [Node.tagStop, Node.stopOf_eq]

/-- An element that stands in a part of a text stands in the text. -/
theorem StandsIn.extend {e : Element} {p : Place} {t : Text} (front back : Text)
    (h : StandsIn e (p.behind front) t) : StandsIn e p (front ++ (t ++ back)) := by
  obtain ⟨before, lead, types, behind, rfl, hstart, hhead⟩ := h
  refine ⟨front ++ before, lead, types, behind ++ back, ?_, ?_, hhead⟩
  · rw [List.append_assoc, List.append_assoc, List.append_assoc]
  · rw [hstart, Place.behind_append]

/-- The head of an element lies behind the beginning of the text and not behind its end. -/
theorem StandsIn.head_bounds {e : Element} {p : Place} {t : Text} (h : StandsIn e p t) :
    p.offset < e.head.offset ∧ e.head.offset ≤ p.offset + t.byteSize := by
  obtain ⟨before, lead, types, behind, rfl, hstart, hhead⟩ := h
  have htag : 0 < (tagText lead e.name types).byteSize :=
    Text.byteSize_pos (List.cons_ne_nil _ _)
  rw [hhead, Place.offset_behind, hstart, Place.offset_behind, Text.byteSize_append,
    Text.byteSize_append]
  omega

/-- An element begins in the text, and in front of its own head. -/
theorem StandsIn.start_bounds {e : Element} {p : Place} {t : Text} (h : StandsIn e p t) :
    p.offset ≤ e.start.offset ∧ e.start.offset < e.head.offset := by
  obtain ⟨before, lead, types, behind, -, hstart, hhead⟩ := h
  have htag : 0 < (tagText lead e.name types).byteSize :=
    Text.byteSize_pos (List.cons_ne_nil _ _)
  rw [hhead, Place.offset_behind, hstart, Place.offset_behind]
  omega

/-- The head of an element does not lie inside a character. -/
theorem StandsIn.isBoundary {e : Element} {t : Text} (h : StandsIn e {} t) :
    t.IsBoundary e.head.offset := by
  obtain ⟨before, lead, types, behind, rfl, hstart, hhead⟩ := h
  rw [hhead, Place.offset_behind, hstart, Place.offset_behind, ← List.append_assoc]
  refine ⟨_, _, rfl, ?_⟩
  rw [Text.byteSize_append, Nat.zero_add]

/-! ## 3.  The elements of a node -/

/-- The parts of the text of an element, in order. -/
theorem text_eq_parts (lead : Text) (name : Option TagName) (types attributes content : List Node)
    (closing : Option Text) :
    (Node.element lead name types attributes content closing).text =
      tagText lead name (Node.textOf types) ++ (Node.textOf attributes ++
        (Node.tagEnd closing ++ (Node.textOf content ++ closing.getD []))) := by
  simp only [Node.text_element, tagText, List.append_assoc]

/-- An element stands in the text of the nodes in which it occurs. -/
theorem Occurs.standsIn {p : Place} {ns : List Node} {e : Element} (h : Occurs p ns e) :
    StandsIn e p (Node.textOf ns) := by
  induction h with
  | @self p lead name types attributes content closing ns =>
    rw [Node.textOf_cons, text_eq_parts, List.append_assoc]
    exact ⟨[], lead, Node.textOf types, _, rfl, rfl, head_eq p lead name types⟩
  | @inTypes p lead name types attributes content closing ns e _ ih =>
    rw [named_eq] at ih
    rw [Node.textOf_cons, text_eq_parts, tagText_eq, List.append_assoc, List.append_assoc]
    exact ih.extend _ _
  | @inTag p lead name types attributes content closing ns e _ ih =>
    rw [head_eq] at ih
    rw [Node.textOf_cons, text_eq_parts, List.append_assoc, List.append_assoc]
    exact ih.extend _ _
  | @inContent p lead name types attributes content closing ns e _ ih =>
    -- the content stands behind the whole opening tag
    rw [tagStop_eq, head_eq, ← Place.behind_append, ← Place.behind_append] at ih
    have hc := ih.extend _ (closing.getD [] ++ Node.textOf ns)
    rw [Node.textOf_cons, text_eq_parts]
    simpa only [List.append_assoc] using hc
  | @inCode p name link quoted code ns e _ ih =>
    rw [Node.textOf_cons, Node.text_attr, List.append_assoc]
    exact ih.extend _ _
  | @behind p n ns e _ ih =>
    rw [Node.stop_eq] at ih
    have hn := ih.extend n.text []
    rwa [List.append_nil, ← Node.textOf_cons] at hn

/-- The elements of a list of nodes stand in its text. -/
theorem standsIn_of_mem_listFrom (p : Place) (ns : List Node) :
    ∀ e ∈ listFrom p ns, StandsIn e p (Node.textOf ns) :=
  fun _ he => (mem_listFrom_iff.1 he).standsIn

/-- **The elements of a file stand in it.** -/
theorem standsIn_of_mem_list {ns : List Node} {e : Element} (he : e ∈ list ns) :
    StandsIn e {} (Node.textOf ns) :=
  standsIn_of_mem_listFrom {} ns e (list_eq ns ▸ he)

/-! ## 4.  Where an element ends -/

theorem byteSize_tagEnd_pos (closing : Option Text) : 0 < (Node.tagEnd closing).byteSize := by
  cases closing with
  | none => decide
  | some t => exact (by decide : 0 < Text.byteSize ['>'])

theorem offset_named (p : Place) (lead : Text) (name : Option TagName) :
    (Node.named p lead name).offset = p.offset + (tagText lead name []).byteSize := by
  rw [named_eq, Place.offset_behind]

theorem offset_head (p : Place) (lead : Text) (name : Option TagName) (types : List Node) :
    (Node.head p lead name types).offset =
      (Node.named p lead name).offset + (Node.textOf types).byteSize := by
  rw [Node.head, Node.stopOf_eq, Place.offset_behind]

theorem offset_tagStop (head : Place) (attributes : List Node) (closing : Option Text) :
    (Node.tagStop head attributes closing).offset =
      head.offset + (Node.textOf attributes).byteSize + (Node.tagEnd closing).byteSize := by
  rw [tagStop_eq, Place.offset_behind, Place.offset_behind]

theorem offset_stop (p : Place) (n : Node) : (n.stop p).offset = p.offset + n.text.byteSize := by
  rw [Node.stop_eq, Place.offset_behind]

theorem offset_stop_ofTag (p : Place) (lead : Text) (name : Option TagName)
    (types attributes content : List Node) (closing : Option Text) :
    (ofTag p lead name types attributes content closing).stop.offset =
      (Node.tagStop (Node.head p lead name types) attributes closing).offset +
        (Node.textOf content).byteSize + (closing.getD []).byteSize := by
  rw [ofTag, Node.stopOf_eq, Place.offset_behind, Place.offset_behind]

/-- The size of an element, part by part. -/
theorem byteSize_text (lead : Text) (name : Option TagName) (types attributes content : List Node)
    (closing : Option Text) :
    (Node.element lead name types attributes content closing).text.byteSize =
      (tagText lead name []).byteSize + (Node.textOf types).byteSize +
        (Node.textOf attributes).byteSize + (Node.tagEnd closing).byteSize +
          (Node.textOf content).byteSize + (closing.getD []).byteSize := by
  rw [text_eq_parts, tagText_eq]
  simp only [Text.byteSize_append]
  omega

/-- An element ends behind its head, and not behind the end of the text. -/
theorem Occurs.stop_bounds {p : Place} {ns : List Node} {e : Element} (h : Occurs p ns e) :
    e.head.offset < e.stop.offset ∧ e.stop.offset ≤ p.offset + (Node.textOf ns).byteSize := by
  induction h with
  | @self p lead name types attributes content closing ns =>
    have htag := byteSize_tagEnd_pos closing
    have hstop := offset_stop_ofTag p lead name types attributes content closing
    have hhead : (ofTag p lead name types attributes content closing).head.offset =
      (Node.head p lead name types).offset := rfl
    rw [offset_tagStop] at hstop
    rw [Node.textOf_cons, Text.byteSize_append, byteSize_text]
    rw [offset_head, offset_named] at hstop hhead
    omega
  | @inTypes p lead name types attributes content closing ns e _ ih =>
    rw [offset_named] at ih
    rw [Node.textOf_cons, Text.byteSize_append, byteSize_text]
    omega
  | @inTag p lead name types attributes content closing ns e _ ih =>
    rw [offset_head, offset_named] at ih
    rw [Node.textOf_cons, Text.byteSize_append, byteSize_text]
    omega
  | @inContent p lead name types attributes content closing ns e _ ih =>
    rw [offset_tagStop, offset_head, offset_named] at ih
    rw [Node.textOf_cons, Text.byteSize_append, byteSize_text]
    omega
  | @inCode p name link quoted code ns e _ ih =>
    rw [Place.offset_behind] at ih
    rw [Node.textOf_cons, Text.byteSize_append, Node.text_attr, Text.byteSize_append]
    omega
  | @behind p n ns e _ ih =>
    rw [offset_stop] at ih
    rw [Node.textOf_cons, Text.byteSize_append]
    omega

/-- **An element begins in front of its head and ends behind it**, all in the text of the nodes in
which it occurs. -/
theorem bounds_of_mem_listFrom {p : Place} {ns : List Node} {e : Element} (h : e ∈ listFrom p ns) :
    p.offset ≤ e.start.offset ∧ e.start.offset < e.head.offset ∧ e.head.offset < e.stop.offset ∧
      e.stop.offset ≤ p.offset + (Node.textOf ns).byteSize := by
  have hoccurs := mem_listFrom_iff.1 h
  exact ⟨hoccurs.standsIn.start_bounds.1, hoccurs.standsIn.start_bounds.2, hoccurs.stop_bounds⟩

/-- The elements of one node. -/
theorem bounds_of_mem_ofNode {p : Place} {n : Node} {e : Element} (h : e ∈ ofNode p n) :
    p.offset ≤ e.start.offset ∧ e.start.offset < e.head.offset ∧ e.head.offset < e.stop.offset ∧
      e.stop.offset ≤ p.offset + n.text.byteSize := by
  have hlist : e ∈ listFrom p [n] := by rwa [listFrom_cons, listFrom_nil, List.append_nil]
  have hbounds := bounds_of_mem_listFrom hlist
  rwa [Node.textOf_cons, Node.textOf_nil, List.append_nil] at hbounds

end Element

end UiHarness.Syntax
