import Mathlib.Data.List.Forall2
import UiHarness.Imports.Bucket
import UiHarness.Proofs.Syntax.Order

/-!
# Further attributes

A file whose elements get further attributes can be looked at in two ways: as the text of the file
with the texts of the attributes woven in, and as the nodes of the file with the attributes among
them.  Here both are compared.  Nothing is said of how the new text is read.

* `Node.editOf`: nodes with further nodes in front of the attributes of their elements.
* `Element.textOf_editOf`: the text of these nodes is the old text with the new texts woven in.  No
  two heads coincide, and none is the beginning or the end of its element, so what is woven into
  neighbours does not meet.
* `Element.gained_listFrom`: the elements are the same ones, each with its further attributes in
  front of the old ones.  An old attribute is as it was, but for further texts in its own code.
-/

namespace UiHarness.Syntax

/-! ## 1.  Edited nodes -/

namespace Node

mutual

/-- A node that starts at a place, with further nodes in front of the attributes of its elements:
for each element those that are given for its head. -/
def edit (g : Nat → List Node) (p : Place) : Node → Node
  | token t => token t
  | importStatement t bs => importStatement t bs
  | attr name link quoted code =>
    attr name link quoted (editOf g (p.behind (name ++ link ++ quoted.getD [])) code)
  | element lead name types attributes content closing =>
    let head := Node.head p lead name types
    element lead name (editOf g (Node.named p lead name) types)
      (g head.offset ++ editOf g head attributes)
      (editOf g (tagStop head attributes closing) content) closing

/-- The nodes of a list that starts at a place, with further nodes in front of the attributes of
their elements. -/
def editOf (g : Nat → List Node) (p : Place) : List Node → List Node
  | [] => []
  | n :: ns => edit g p n :: editOf g (n.stop p) ns

end

/-- Import statements stay. -/
theorem bindingsOf_editOf (g : Nat → List Node) (p : Place) (ns : List Node) :
    bindingsOf (editOf g p ns) = bindingsOf ns := by
  induction ns generalizing p with
  | nil => simp only [editOf]
  | cons n ns ih =>
    simp only [bindingsOf] at ih
    simp only [editOf, bindingsOf, List.flatMap_cons, ih]
    cases n with
    | importStatement t bs => simp only [edit]
    | token t => simp only [edit]
    | attr name link quoted code => simp only [edit]
    | element lead name types attributes content closing => simp only [edit]

end Node

namespace Element

/-! ## 2.  Where nothing is put in -/

/-- The elements of nodes that stand behind others. -/
theorem listFrom_append (p : Place) (ns ms : List Node) :
    listFrom p (ns ++ ms) = listFrom p ns ++ listFrom (p.behind (Node.textOf ns)) ms := by
  induction ns generalizing p with
  | nil => simp only [listFrom_nil, List.nil_append, Node.textOf_nil, Place.behind_nil]
  | cons n ns ih =>
    simp only [List.cons_append, listFrom_cons, ih, List.append_assoc, Node.stop_eq,
      Node.textOf_cons, Place.behind_append]

/-- The head of an element lies before the end of the text. -/
theorem head_lt_ofNode (p : Place) (n : Node) :
    ∀ e ∈ ofNode p n, e.head.offset < p.offset + n.text.byteSize := by
  intro e he
  have hbounds := bounds_of_mem_ofNode he
  omega

/-- The heads of the elements of a list lie before the end of the text. -/
theorem head_lt_listFrom (p : Place) (ns : List Node) :
    ∀ e ∈ listFrom p ns, e.head.offset < p.offset + (Node.textOf ns).byteSize := by
  intro e he
  have hbounds := bounds_of_mem_listFrom he
  omega

/-- They lie behind its beginning. -/
theorem lt_head_listFrom (p : Place) (ns : List Node) :
    ∀ e ∈ listFrom p ns, p.offset < e.head.offset := by
  intro e he
  have hbounds := bounds_of_mem_listFrom he
  omega

/-! ## 3.  Their text -/

/-- Texts that are woven into a part of a file only at the heads of its elements, where they are
those of the further nodes. -/
structure AtHeads (g : Nat → List Node) (es : List Element) (f : Nat → Text) (p : Place)
    (t : Text) : Prop where
  heads : ∀ e ∈ es, f e.head.offset = Node.textOf (g e.head.offset)
  only : ∀ o, p.offset ≤ o → o ≤ p.offset + t.byteSize → f o ≠ [] →
    ∃ e ∈ es, e.head.offset = o

/-- Where no element has its head, nothing is woven in. -/
theorem AtHeads.eq_nil {g : Nat → List Node} {es : List Element} {f : Nat → Text} {p : Place}
    {t : Text} (h : AtHeads g es f p t) {o : Nat} (ho : p.offset ≤ o)
    (ho' : o ≤ p.offset + t.byteSize) (hne : ∀ e ∈ es, e.head.offset ≠ o) : f o = [] :=
  Classical.byContradiction fun hf =>
    let ⟨e, he, heq⟩ := h.only o ho ho' hf
    hne e he heq

/-- A text without elements stays. -/
theorem AtHeads.weave_eq_self {g : Nat → List Node} {f : Nat → Text} {p : Place} {t : Text}
    (h : AtHeads g [] f p t) : Text.weave f p.offset t = t :=
  Text.weave_eq_self_of_le fun _ ho ho' => h.eq_nil ho ho' fun _ he => absurd he List.not_mem_nil

/-- **Two parts of a text are woven apart**, each with its elements, if no head lies between
them. -/
theorem AtHeads.cut {g : Nat → List Node} {es es' : List Element} {f : Nat → Text} {p : Place}
    {front back : Text} (h : AtHeads g (es ++ es') f p (front ++ back))
    (hfront : ∀ e ∈ es, e.head.offset < p.offset + front.byteSize)
    (hback : ∀ e ∈ es', (p.behind front).offset < e.head.offset) :
    AtHeads g es f p front ∧ AtHeads g es' f (p.behind front) back ∧
      Text.weave f p.offset (front ++ back) =
        Text.weave f p.offset front ++ Text.weave f (p.behind front).offset back := by
  have hplace := Place.offset_behind p front
  have hsize := Text.byteSize_append front back
  refine ⟨⟨fun e he => h.heads e (List.mem_append_left _ he), fun o ho ho' hf => ?_⟩,
    ⟨fun e he => h.heads e (List.mem_append_right _ he), fun o ho ho' hf => ?_⟩, ?_⟩
  · obtain ⟨e, he, heq⟩ := h.only o ho (by omega) hf
    rcases List.mem_append.1 he with he | he
    · exact ⟨e, he, heq⟩
    · have := hback e he
      omega
  · obtain ⟨e, he, heq⟩ := h.only o (by omega) (by omega) hf
    rcases List.mem_append.1 he with he | he
    · have := hfront e he
      omega
    · exact ⟨e, he, heq⟩
  · rw [hplace, Text.weave_append_of_nil]
    refine h.eq_nil (Nat.le_add_right _ _) (by omega) fun e he heq => ?_
    rcases List.mem_append.1 he with he | he
    · have := hfront e he
      omega
    · have := hback e he
      omega

/-- A part without elements in front of a text stays. -/
theorem AtHeads.pass {g : Nat → List Node} {es : List Element} {f : Nat → Text} {p : Place}
    {front back : Text} (h : AtHeads g es f p (front ++ back))
    (hback : ∀ e ∈ es, (p.behind front).offset ≤ e.head.offset) :
    AtHeads g es f (p.behind front) back ∧
      Text.weave f p.offset (front ++ back) =
        front ++ Text.weave f (p.behind front).offset back := by
  have hplace := Place.offset_behind p front
  have hsize := Text.byteSize_append front back
  refine ⟨⟨h.heads, fun o ho ho' => h.only o (by omega) (by omega)⟩, ?_⟩
  rw [hplace, Text.weave_append]
  refine fun o ho ho' => h.eq_nil ho (by omega) fun e he heq => ?_
  have := hback e he
  omega

/-- **At the head of an element its own attributes are put in**, between what is woven into its type
arguments and what is woven into the rest. -/
theorem AtHeads.split {g : Nat → List Node} {own : Element} {es es' : List Element}
    {f : Nat → Text} {p : Place} {types rest : Text}
    (h : AtHeads g (own :: (es ++ es')) f p (types ++ rest)) (hown : own.head = p.behind types)
    (hes : ∀ e ∈ es, e.head.offset < own.head.offset)
    (hes' : ∀ e ∈ es', own.head.offset < e.head.offset) :
    AtHeads g es (fun o => if o = own.head.offset then [] else f o) p types ∧
      AtHeads g es' (fun o => if o = own.head.offset then [] else f o) own.head rest ∧
      Text.weave f p.offset (types ++ rest) =
        Text.weave (fun o => if o = own.head.offset then [] else f o) p.offset types ++
          (Node.textOf (g own.head.offset) ++
            Text.weave (fun o => if o = own.head.offset then [] else f o) own.head.offset rest) := by
  have hhead : own.head.offset = p.offset + types.byteSize := hown ▸ Place.offset_behind p types
  have hsize := Text.byteSize_append types rest
  -- a place other than the head belongs to one of the two parts
  have honly : ∀ o, p.offset ≤ o → o ≤ p.offset + (types ++ rest).byteSize →
      (if o = own.head.offset then [] else f o) ≠ [] →
        o ≠ own.head.offset ∧ ∃ e ∈ es ++ es', e.head.offset = o := by
    intro o ho ho' hf
    split at hf
    · exact absurd rfl hf
    · rename_i hne
      obtain ⟨e, he, heq⟩ := h.only o ho ho' hf
      rcases List.mem_cons.1 he with rfl | he
      · exact absurd heq.symm hne
      · exact ⟨hne, e, he, heq⟩
  refine ⟨⟨fun e he => ?_, fun o ho ho' hf => ?_⟩, ⟨fun e he => ?_, fun o ho ho' hf => ?_⟩, ?_⟩
  · rw [if_neg (Nat.ne_of_lt (hes e he)),
      h.heads e (List.mem_cons_of_mem _ (List.mem_append_left _ he))]
  · obtain ⟨hne, e, he, heq⟩ := honly o ho (by omega) hf
    refine ⟨e, (List.mem_append.1 he).resolve_right fun he => ?_, heq⟩
    have := hes' e he
    omega
  · rw [if_neg (Nat.ne_of_gt (hes' e he)),
      h.heads e (List.mem_cons_of_mem _ (List.mem_append_right _ he))]
  · obtain ⟨hne, e, he, heq⟩ := honly o (by omega) (by omega) hf
    refine ⟨e, (List.mem_append.1 he).resolve_left fun he => ?_, heq⟩
    have := hes e he
    omega
  · rw [Text.weave_append_at, ← hhead, h.heads own (List.mem_cons_self ..)]

mutual

/-- The text of an edited node. -/
theorem text_edit {g : Nat → List Node} {f : Nat → Text} (p : Place) (n : Node)
    (h : AtHeads g (ofNode p n) f p n.text) :
    (Node.edit g p n).text = Text.weave f p.offset n.text := by
  match n with
  | .token t =>
    rw [ofNode_token] at h
    rw [Node.edit, h.weave_eq_self]
  | .importStatement t bs =>
    rw [ofNode_importStatement] at h
    rw [Node.edit, h.weave_eq_self]
  | .attr name link quoted code =>
    rw [ofNode_attr, Node.text_attr] at h
    rw [Node.edit, Node.text_attr, Node.text_attr]
    obtain ⟨hcode, hcut⟩ := h.pass fun e he => Nat.le_of_lt (lt_head_listFrom _ code e he)
    rw [hcut, textOf_editOf_from _ code hcode]
  | .element lead name types attributes content closing =>
    have hown : (ofTag p lead name types attributes content closing).head =
      Node.head p lead name types := rfl
    have hhead : Node.head p lead name types =
        (Node.named p lead name).behind (Node.textOf types) := Node.stopOf_eq _ types
    have hnamed := named_eq p lead name
    have hplace := offset_head p lead name types
    have hplace' := offset_tagStop (Node.head p lead name types) attributes closing
    have hpos := byteSize_tagEnd_pos closing
    have htypes := lt_head_listFrom (Node.named p lead name) types
    have htypes' := head_lt_listFrom (Node.named p lead name) types
    have hattributes := lt_head_listFrom (Node.head p lead name types) attributes
    have hcontent := lt_head_listFrom
      (Node.tagStop (Node.head p lead name types) attributes closing) content
    rw [ofNode_element, text_eq_parts, tagText_eq, List.append_assoc] at h
    -- the name, the type arguments, the attributes, the end of the tag, the content and the closing
    -- tag, in order
    obtain ⟨h, hname⟩ := h.pass fun e he => by
      rw [← hnamed]
      rcases List.mem_cons.1 he with rfl | he
      · rw [hown]
        omega
      · rcases List.mem_append.1 he with he | he
        · exact Nat.le_of_lt (htypes e he)
        · rcases List.mem_append.1 he with he | he
          · have := hattributes e he
            omega
          · have := hcontent e he
            omega
    rw [← hnamed] at h hname
    obtain ⟨ht, h, hsplit⟩ := h.split hhead (fun e he => by
        have := htypes' e he
        rw [hown]
        omega) fun e he => by
        rw [hown]
        rcases List.mem_append.1 he with he | he
        · exact hattributes e he
        · have := hcontent e he
          omega
    rw [hown] at h ht hsplit
    obtain ⟨ha, h, hcut⟩ := h.cut (head_lt_listFrom _ attributes) fun e he => by
      have := hcontent e he
      rw [Place.offset_behind]
      omega
    have htag := tagStop_eq (Node.head p lead name types) attributes closing
    rw [htag] at h hcontent
    obtain ⟨h, hcut'⟩ := h.pass fun e he => Nat.le_of_lt (hcontent e he)
    rw [← htag] at h hcut'
    rw [← List.append_nil (listFrom _ content)] at h
    obtain ⟨hc, hclosing, hcut''⟩ := h.cut (head_lt_listFrom _ content)
      fun e he => absurd he List.not_mem_nil
    rw [Node.edit, text_eq_parts, text_eq_parts, tagText_eq, tagText_eq lead name (Node.textOf types),
      List.append_assoc, List.append_assoc, hname, hsplit, hcut, hcut', hcut'',
      hclosing.weave_eq_self, ← textOf_editOf_from _ types ht, ← textOf_editOf_from _ attributes ha,
      ← textOf_editOf_from _ content hc, Node.textOf_append, List.append_assoc]

/-- The text of edited nodes. -/
theorem textOf_editOf_from {g : Nat → List Node} {f : Nat → Text} (p : Place) (ns : List Node)
    (h : AtHeads g (listFrom p ns) f p (Node.textOf ns)) :
    Node.textOf (Node.editOf g p ns) = Text.weave f p.offset (Node.textOf ns) := by
  match ns with
  | [] =>
    rw [listFrom_nil] at h
    rw [Node.editOf, h.weave_eq_self]
  | n :: ns =>
    rw [listFrom_cons, Node.stop_eq, Node.textOf_cons] at h
    obtain ⟨hn, hns, hcut⟩ := h.cut (head_lt_ofNode p n) (lt_head_listFrom _ ns)
    rw [Node.editOf, Node.textOf_cons, Node.textOf_cons, Node.stop_eq, hcut, text_edit p n hn,
      textOf_editOf_from _ ns hns]

end

/-- **The text of edited nodes** is the old one with the texts of the further nodes woven in. -/
theorem textOf_editOf {g : Nat → List Node} {ns : List Node}
    (h : ∀ o, g o ≠ [] → ∃ e ∈ list ns, e.head.offset = o) :
    Node.textOf (Node.editOf g {} ns) =
      Text.weave (fun o => Node.textOf (g o)) 0 (Node.textOf ns) := by
  refine textOf_editOf_from {} ns ⟨fun e _ => rfl, fun o _ _ hf => ?_⟩
  rw [← list_eq]
  refine h o fun hg => hf ?_
  rw [hg, Node.textOf_nil]

end Element

/-! ## 4.  Their elements -/

section Elements

variable {g : Nat → List Node}

/-- A text with the texts of further nodes put into it. -/
def Further (g : Nat → List Node) (t t' : Text) : Prop :=
  ∃ pieces, (∀ piece ∈ pieces, ∃ o, piece = Node.textOf (g o)) ∧ Inserted pieces t t'

theorem Further.refl (t : Text) : Further g t t := ⟨[], fun _ h => absurd h List.not_mem_nil, .rest t⟩

theorem Further.append {s s' t t' : Text} (hs : Further g s s') (ht : Further g t t') :
    Further g (s ++ t) (s' ++ t') := by
  obtain ⟨ps, hps, hs⟩ := hs
  obtain ⟨qs, hqs, ht⟩ := ht
  exact ⟨ps ++ qs, fun x hx => (List.mem_append.1 hx).elim (hps x) (hqs x), hs.append ht⟩

/-- The text of further nodes in front of a text. -/
theorem Further.cons (o : Nat) {t t' : Text} (h : Further g t t') :
    Further g t (Node.textOf (g o) ++ t') := by
  obtain ⟨ps, hps, h⟩ := h
  refine ⟨Node.textOf (g o) :: ps, fun x hx => ?_, .piece [] _ h⟩
  rcases List.mem_cons.1 hx with rfl | hx
  · exact ⟨o, rfl⟩
  · exact hps x hx

mutual

theorem further_edit (p : Place) (n : Node) : Further g n.text (n.edit g p).text := by
  match n with
  | .token t => rw [Node.edit]; exact .refl _
  | .importStatement t bs => rw [Node.edit]; exact .refl _
  | .attr name link quoted code =>
    rw [Node.edit, Node.text_attr, Node.text_attr]
    exact (Further.refl _).append (further_editOf _ code)
  | .element lead name types attributes content closing =>
    rw [Node.edit, Element.text_eq_parts, Element.text_eq_parts, Node.textOf_append,
      List.append_assoc, Element.tagText_eq, Element.tagText_eq lead name (Node.textOf _)]
    exact ((Further.refl _).append (further_editOf _ types)).append
      (.cons _ ((further_editOf _ attributes).append
        ((Further.refl _).append ((further_editOf _ content).append (.refl _)))))

theorem further_editOf (p : Place) (ns : List Node) :
    Further g (Node.textOf ns) (Node.textOf (Node.editOf g p ns)) := by
  match ns with
  | [] => rw [Node.editOf]; exact .refl _
  | n :: ns =>
    rw [Node.editOf, Node.textOf_cons, Node.textOf_cons]
    exact (further_edit p n).append (further_editOf _ ns)

end

/-- An attribute as it was, but for the texts of further nodes in its own code. -/
structure Attribute.Kept (g : Nat → List Node) (a a' : Attribute) : Prop where
  name : a'.name = a.name
  value : a'.value = a.value
  text : Further g a.text a'.text

/-- An element as it was, but for further attributes in front of the old ones. -/
structure Element.Gained (g : Nat → List Node) (e e' : Element) : Prop where
  name : e'.name = e.name
  closesItself : e'.closesItself = e.closesItself
  attributes : ∃ old, e'.attributes = (g e.head.offset).filterMap Attribute.ofNode? ++ old ∧
    List.Forall₂ (Attribute.Kept g) e.attributes old

/-- The attributes among edited nodes. -/
theorem kept_editOf (p : Place) (ns : List Node) :
    List.Forall₂ (Attribute.Kept g) (ns.filterMap Attribute.ofNode?)
      ((Node.editOf g p ns).filterMap Attribute.ofNode?) := by
  induction ns generalizing p with
  | nil =>
    rw [Node.editOf]
    exact .nil
  | cons n ns ih =>
    have hns := ih (n.stop p)
    have htext := further_edit (g := g) p n
    rw [Node.editOf, List.filterMap_cons, List.filterMap_cons]
    cases n with
    | token t => simpa only [Node.edit, Attribute.ofNode?] using hns
    | importStatement t bs => simpa only [Node.edit, Attribute.ofNode?] using hns
    | element lead name types attributes content closing =>
      simpa only [Node.edit, Attribute.ofNode?] using hns
    | attr name link quoted code =>
      rw [Node.edit] at htext ⊢
      exact .cons ⟨rfl, rfl, htext⟩ hns

mutual

/-- The elements of an edited node, wherever it stands. -/
theorem gained_ofNode (hg : ∀ o p, Element.listFrom p (g o) = []) (p q : Place) (n : Node) :
    List.Forall₂ (Element.Gained g) (Element.ofNode p n) (Element.ofNode q (n.edit g p)) := by
  match n with
  | .token t =>
    rw [Node.edit, Element.ofNode_token, Element.ofNode_token]
    exact .nil
  | .importStatement t bs =>
    rw [Node.edit, Element.ofNode_importStatement, Element.ofNode_importStatement]
    exact .nil
  | .attr name link quoted code =>
    rw [Node.edit, Element.ofNode_attr, Element.ofNode_attr]
    exact gained_listFrom hg _ _ code
  | .element lead name types attributes content closing =>
    rw [Node.edit, Element.ofNode_element, Element.ofNode_element, Element.listFrom_append, hg,
      List.nil_append]
    refine .cons ⟨rfl, rfl, _, List.filterMap_append .., kept_editOf _ attributes⟩
      (List.rel_append (gained_listFrom hg _ _ types)
        (List.rel_append (gained_listFrom hg _ _ attributes) (gained_listFrom hg _ _ content)))

/-- The elements of edited nodes, wherever they stand. -/
theorem gained_listFrom (hg : ∀ o p, Element.listFrom p (g o) = []) (p q : Place)
    (ns : List Node) :
    List.Forall₂ (Element.Gained g) (Element.listFrom p ns)
      (Element.listFrom q (Node.editOf g p ns)) := by
  match ns with
  | [] =>
    rw [Node.editOf, Element.listFrom_nil, Element.listFrom_nil]
    exact .nil
  | n :: ns =>
    rw [Node.editOf, Element.listFrom_cons, Element.listFrom_cons]
    exact List.rel_append (gained_ofNode hg p q n) (gained_listFrom hg _ _ ns)

end

/-- **The elements of an edited file** are the old ones with further attributes. -/
theorem gained_list (hg : ∀ o p, Element.listFrom p (g o) = []) (ns : List Node) :
    List.Forall₂ (Element.Gained g) (Element.list ns) (Element.list (Node.editOf g {} ns)) := by
  rw [Element.list_eq, Element.list_eq]
  exact gained_listFrom hg {} {} ns

end Elements

end UiHarness.Syntax
