import UiHarness.Proofs.Hook.Identifier
import UiHarness.Proofs.Syntax.Edit

/-!
# Reading a file with hooks

A file that was given hooks is a new text, and what is read in it is up to the parser.  What has to
be taken for granted of the parser is said of one file at a time and of the hooks that are planned
for it: if the planned identifiers have no quotes and no ampersands, the nodes of the file with the
nodes of the hooks among them are read back from the text that they stand for (`Hook.ReadsBack`).

What is proved is that the text made from the bytes of the file is this text, and what follows for
the elements in it.

* `Hook.textOf_withHooks`: the new text is the text of the nodes with hooks.
* `Hook.Hooked`: what has become of an element.
* `Hook.plan_eq_nil_of_hooked`: nothing is left to be planned where all of it was done.
* `Hook.Faithful`: what has become of all elements, in their order, and of the imports.
* `Hook.exists_faithful`: the new text can be read, and what is read is faithful.
-/

namespace UiHarness

/-- Each entry on the right has one on the left. -/
theorem exists_of_forall₂ {α β : Type} {R : α → β → Prop} {l : List α} {l' : List β}
    (h : List.Forall₂ R l l') {b : β} (hb : b ∈ l') : ∃ a ∈ l, R a b := by
  induction h with
  | nil => cases hb
  | @cons x y l l' hxy _ ih =>
    rcases List.mem_cons.1 hb with rfl | hb
    · exact ⟨x, List.mem_cons_self .., hxy⟩
    · obtain ⟨a, ha, hab⟩ := ih hb
      exact ⟨a, List.mem_cons_of_mem _ ha, hab⟩

namespace Syntax

/-! ## 1.  Legible nodes -/

/-- What the tag of an element says, wherever it stands. -/
structure Tag where
  name : Option TagName
  attributes : List Attribute
  closesItself : Bool
  deriving DecidableEq, Repr

/-- The tag of an element. -/
def Element.tag (e : Element) : Tag := ⟨e.name, e.attributes, e.closesItself⟩

/-- Nodes that say the same: the same tags in the same order, and the same imports. -/
def Alike (nodes nodes' : List Node) : Prop :=
  (Element.list nodes').map Element.tag = (Element.list nodes).map Element.tag ∧
    Node.bindingsOf nodes' = Node.bindingsOf nodes

instance (nodes nodes' : List Node) : Decidable (Alike nodes nodes') :=
  inferInstanceAs (Decidable (_ ∧ _))

/-- Nodes that are read back from the text that they stand for. -/
def Legible (path : Text) (nodes : List Node) : Prop :=
  ∃ nodes' ∈ (read path (Node.textOf nodes)).toOption, Alike nodes nodes'

instance (path : Text) (nodes : List Node) : Decidable (Legible path nodes) :=
  inferInstanceAs (Decidable (∃ nodes' ∈ _, _))

theorem Legible.exists_read {path : Text} {nodes : List Node} (h : Legible path nodes) :
    ∃ nodes', read path (Node.textOf nodes) = .ok nodes' ∧ Alike nodes nodes' := by
  obtain ⟨nodes', hread, halike⟩ := h
  cases hr : read path (Node.textOf nodes) with
  | error e =>
    rw [hr] at hread
    cases hread
  | ok nodes'' =>
    rw [hr] at hread
    obtain rfl := Option.some.inj hread
    exact ⟨nodes'', rfl, halike⟩

/-- An element that gained attributes, and one with the same tag elsewhere. -/
theorem Element.Gained.of_tag {g : Nat → List Node} {e e' e'' : Element} (h : Gained g e e')
    (ht : e''.tag = e'.tag) : Gained g e e'' := by
  obtain ⟨hname, hattributes, hcloses⟩ := Tag.mk.inj ht
  exact ⟨hname.trans h.name, hcloses.trans h.closesItself, hattributes ▸ h.attributes⟩

theorem gained_of_map_tag {g : Nat → List Node} {es es' es'' : List Element}
    (h : List.Forall₂ (Element.Gained g) es es')
    (ht : es''.map Element.tag = es'.map Element.tag) :
    List.Forall₂ (Element.Gained g) es es'' := by
  induction h generalizing es'' with
  | nil =>
    rw [List.map_nil, List.map_eq_nil_iff] at ht
    rw [ht]
    exact .nil
  | cons hfirst _ ih =>
    rw [List.map_cons, List.map_eq_cons_iff] at ht
    obtain ⟨e'', rest, rfl, htag, hrest⟩ := ht
    exact .cons (hfirst.of_tag htag) (ih hrest)

end Syntax

namespace Hook

open Syntax

/-! ## 2.  Nodes with hooks -/

/-- A hook as nodes: the blank, and the attribute. -/
def hookNodes (id : Text) : List Node :=
  [.token [' '], .attr attributeName ['='] (some ('"' :: id ++ ['"'])) []]

/-- A hook as an attribute. -/
def hookAttribute (id : Text) : Attribute :=
  { name := attributeName, value := some id, text := attributeName ++ "=\"" ++ id ++ ['"'] }

/-- The nodes of the hooks that some suggestions put in at an offset. -/
def nodesAt (ss : List Suggestion) (o : Nat) : List Node :=
  (ss.filter (·.element.head.offset = o)).flatMap fun s => hookNodes s.id

/-- The nodes of a file with the hooks of some suggestions. -/
def withHooks (ss : List Suggestion) (nodes : List Node) : List Node :=
  Node.editOf (nodesAt ss) {} nodes

theorem textOf_hookNodes (id : Text) : Node.textOf (hookNodes id) = attributeText id := by
  simp [hookNodes, attributeText]

theorem listFrom_hookNodes (id : Text) (p : Place) : Element.listFrom p (hookNodes id) = [] := by
  simp [hookNodes, Element.listFrom_cons, Element.ofNode_attr]

theorem filterMap_hookNodes (id : Text) :
    (hookNodes id).filterMap Attribute.ofNode? = [hookAttribute id] := by
  have hvalue : ('"' :: id ++ ['"']).tail.dropLast = id := by simp
  have htext : (Node.attr attributeName ['='] (some ('"' :: id ++ ['"'])) []).text =
      attributeName ++ "=\"" ++ id ++ ['"'] := by
    simp
  rw [hookNodes, hookAttribute, List.filterMap_cons, List.filterMap_cons, List.filterMap_nil]
  simp only [Attribute.ofNode?, Option.map_some, hvalue, htext]

theorem textOf_nodesAt (ss : List Suggestion) (o : Nat) :
    Node.textOf (nodesAt ss o) = textAt ss o := by
  rw [nodesAt, textAt]
  induction ss.filter (·.element.head.offset = o) with
  | nil => simp
  | cons s ss ih => rw [List.flatMap_cons, List.flatMap_cons, Node.textOf_append, textOf_hookNodes, ih]

theorem listFrom_nodesAt (ss : List Suggestion) (o : Nat) (p : Place) :
    Element.listFrom p (nodesAt ss o) = [] := by
  rw [nodesAt]
  induction ss.filter (·.element.head.offset = o) generalizing p with
  | nil => simp
  | cons s ss ih =>
    rw [List.flatMap_cons, Element.listFrom_append, listFrom_hookNodes, ih, List.append_nil]

/-- **The text of the nodes with hooks** is the text of the file with the hooks woven in. -/
theorem textOf_withHooks {ss : List Suggestion} {nodes : List Node}
    (h : ∀ s ∈ ss, s.element ∈ Element.list nodes) :
    Node.textOf (withHooks ss nodes) = Text.weave (textAt ss) 0 (Node.textOf nodes) := by
  rw [withHooks, Element.textOf_editOf, funext (textOf_nodesAt ss)]
  intro o ho
  rw [nodesAt, ne_eq, List.flatMap_eq_nil_iff, Classical.not_forall] at ho
  obtain ⟨s, hs⟩ := ho
  obtain ⟨hs, -⟩ := Classical.not_imp.1 hs
  obtain ⟨hm, heq⟩ := List.mem_filter.1 hs
  exact ⟨s.element, h s hm, of_decide_eq_true heq⟩

/-! ## 3.  Elements with hooks -/

/-- What has become of an element: a planned one has its hook in front of the old attributes, any
other one has the old attributes only. -/
structure Hooked (ss : List Suggestion) (e e' : Element) : Prop where
  name : e'.name = e.name
  closesItself : e'.closesItself = e.closesItself
  planned : ∀ s ∈ ss, s.element = e → ∃ old, e'.attributes = hookAttribute s.id :: old ∧
    List.Forall₂ (Attribute.Kept (nodesAt ss)) e.attributes old
  other : (∀ s ∈ ss, s.element ≠ e) →
    List.Forall₂ (Attribute.Kept (nodesAt ss)) e.attributes e'.attributes

/-- The nodes of hooks at the head of an element are those of its own hook. -/
theorem Hooked.of_gained {ss : List Suggestion} {nodes : List Node} {e e' : Element}
    (hss : ∀ s ∈ ss, s.element ∈ Element.list nodes)
    (hapart : ss.Pairwise fun a b => a.element.head.offset ≠ b.element.head.offset)
    (he : e ∈ Element.list nodes) (h : Element.Gained (nodesAt ss) e e') : Hooked ss e e' := by
  obtain ⟨old, hattributes, hold⟩ := h.attributes
  refine ⟨h.name, h.closesItself, fun s hs heq => ⟨old, ?_, hold⟩, fun hnone => ?_⟩
  · rw [hattributes, nodesAt, ← heq, filter_of_mem hapart hs, List.flatMap_cons, List.flatMap_nil,
      List.append_nil, filterMap_hookNodes, List.singleton_append]
  · have hnil : nodesAt ss e.head.offset = [] := by
      rw [nodesAt, List.filter_eq_nil_iff.2, List.flatMap_nil]
      intro s hs heq
      exact hnone s hs (Element.eq_of_head (hss s hs) he (of_decide_eq_true heq))
    rw [hattributes, hnil, List.filterMap_nil, List.nil_append]
    exact hold

theorem mem_list_of_mem_plan {nodes : List Node} {sectionId : Text} {policies : Table Policy} :
    ∀ s ∈ plan { nodes } sectionId policies, s.element ∈ Element.list nodes :=
  fun _ hs => (of_mem_planFrom hs).1

/-! ## 4.  What is seen of an element -/

/-- Attributes that are kept have their names and values. -/
theorem map_value_find? {g : Nat → List Node} {as bs : List Attribute}
    (h : List.Forall₂ (Attribute.Kept g) as bs) (name : Text) :
    (bs.find? (·.name = name)).map Attribute.value =
      (as.find? (·.name = name)).map Attribute.value := by
  induction h with
  | nil => rfl
  | @cons a b as bs hab _ ih =>
    rw [List.find?_cons, List.find?_cons, hab.name]
    split
    · rw [Option.map_some, Option.map_some, hab.value]
    · exact ih

/-- An element that was not planned has the attributes that it had. -/
theorem Hooked.hasAttribute_of_other {ss : List Suggestion} {e e' : Element} (h : Hooked ss e e')
    (hnone : ∀ s ∈ ss, s.element ≠ e) (name : Text) :
    e'.hasAttribute name = e.hasAttribute name := by
  have hvalue := congrArg Option.isSome (map_value_find? (h.other hnone) name)
  rwa [Option.isSome_map, Option.isSome_map] at hvalue

/-- **The identifier in the hook of a planned element** is the one that was planned. -/
theorem Hooked.idOf?_of_planned {ss : List Suggestion} {e e' : Element} (h : Hooked ss e e')
    {s : Suggestion} (hs : s ∈ ss) (heq : s.element = e) : idOf? e' = some s.id := by
  obtain ⟨old, hattributes, -⟩ := h.planned s hs heq
  rw [idOf?, Element.stringAttribute?, Element.attribute?, hattributes,
    List.find?_cons_of_pos (by exact decide_eq_true rfl), Option.bind_some, hookAttribute]

/-- Whether an element is to get a hook is a matter of its name and its attributes. -/
theorem target?_congr {nodes nodes' : List Node} {policies : Table Policy} {e e' : Element}
    (hname : e'.name = e.name) (hattribute : ∀ name, e'.hasAttribute name = e.hasAttribute name) :
    target? { nodes := nodes' } policies e' = target? { nodes } policies e := by
  simp only [target?, meets, Element.component?, hname, hasHook_bare, hattribute]

/-! ## 5.  Planning again -/

/-- An element with the hook that was planned for it, or one that was not planned, is to get none. -/
theorem Hooked.target?_eq_none {nodes nodes' : List Node} {sectionId : Text}
    {policies : Table Policy} {e e' : Element} (he : e ∈ Element.list nodes)
    (h : Hooked (plan { nodes } sectionId policies) e e') :
    target? { nodes := nodes' } policies e' = none := by
  by_cases hplanned : ∃ s ∈ plan { nodes } sectionId policies, s.element = e
  · obtain ⟨s, hs, heq⟩ := hplanned
    obtain ⟨old, hattributes, -⟩ := h.planned s hs heq
    refine Option.eq_none_iff_forall_ne_some.2 fun x hx => ?_
    obtain ⟨-, hhook, -⟩ := target?_eq_some hx
    rw [hasHook_bare, Element.hasAttribute, Element.attribute?, hattributes,
      List.find?_cons_of_pos (by exact decide_eq_true rfl)] at hhook
    cases hhook
  · have hnone : ∀ s ∈ plan { nodes } sectionId policies, s.element ≠ e :=
      fun s hs heq => hplanned ⟨s, hs, heq⟩
    rw [target?_congr h.name (h.hasAttribute_of_other hnone)]
    -- all elements that are to get a hook are planned
    refine Option.eq_none_iff_forall_ne_some.2 fun x hx => hplanned ?_
    have hmem : e ∈ (plan { nodes } sectionId policies).map Suggestion.element := by
      rw [plan, map_element_planFrom]
      exact List.mem_filter.2 ⟨he, by rw [hx]; rfl⟩
    exact List.mem_map.1 hmem

/-- **In a file with the planned hooks nothing is left to be planned.** -/
theorem plan_eq_nil_of_hooked {nodes nodes' : List Node} {sectionId : Text}
    {policies : Table Policy}
    (h : List.Forall₂ (Hooked (plan { nodes } sectionId policies)) (Element.list nodes)
      (Element.list nodes')) : plan { nodes := nodes' } sectionId policies = [] := by
  have hnone : ∀ e' ∈ Element.list nodes', ¬ (target? { nodes := nodes' } policies e').isSome := by
    intro e' he'
    obtain ⟨e, he, hooked⟩ := exists_of_forall₂ h he'
    rw [hooked.target?_eq_none he]
    exact Bool.false_ne_true
  have hmap := map_element_planFrom { nodes := nodes' } sectionId policies [] (Element.list nodes')
  rw [List.filter_eq_nil_iff.2 hnone, List.map_eq_nil_iff] at hmap
  exact hmap

/-! ## 6.  The new text -/

/-- The nodes with hooks are read back, if the identifiers may stand in quotes. -/
def ReadsBack (path : Text) (nodes : List Node) (ss : List Suggestion) : Prop :=
  (∀ s ∈ ss, Quotable s.id) → Legible path (withHooks ss nodes)

instance (path : Text) (nodes : List Node) (ss : List Suggestion) :
    Decidable (ReadsBack path nodes ss) :=
  inferInstanceAs (Decidable (_ → _))

/-- Nodes in which some suggestions were followed and nothing else was changed. -/
structure Faithful (ss : List Suggestion) (nodes nodes' : List Node) : Prop where
  elements : List.Forall₂ (Hooked ss) (Element.list nodes) (Element.list nodes')
  ids : List.Forall₂ (fun e e' => ∀ s ∈ ss, s.element = e → idOf? e' = some s.id)
    (Element.list nodes) (Element.list nodes')
  imports : Node.bindingsOf nodes' = Node.bindingsOf nodes

/-- **Nodes that say the same as those with hooks** are faithful to the plan, whatever the
identifiers are. -/
theorem faithful_of_alike {nodes nodes' : List Node} {sectionId : Text} {policies : Table Policy}
    (h : Alike (withHooks (plan { nodes } sectionId policies) nodes) nodes') :
    Faithful (plan { nodes } sectionId policies) nodes nodes' := by
  have hgained := gained_of_map_tag
    (gained_list (listFrom_nodesAt (plan { nodes } sectionId policies)) nodes) h.1
  have helements : List.Forall₂ (Hooked (plan { nodes } sectionId policies)) (Element.list nodes)
      (Element.list nodes') :=
    ((List.forall₂_and_left _ _).2 ⟨fun e he => he, hgained⟩).imp fun e e' he =>
      Hooked.of_gained mem_list_of_mem_plan (plan_fits nodes sectionId policies).apart he.1 he.2
  refine ⟨helements, helements.imp fun e e' he => ?_, ?_⟩
  · intro s hs heq
    exact he.idOf?_of_planned hs heq
  · rw [h.2, withHooks, Node.bindingsOf_editOf]

/-- **A file with the planned hooks can be read**, and what is read is faithful to the plan. -/
theorem exists_faithful {path code : Text} {nodes : List Node} {sectionId : Text}
    {policies : Table Policy} (hread : Syntax.read path code = .ok nodes)
    (hids : ∀ s ∈ plan { nodes } sectionId policies, Quotable s.id)
    (hback : ReadsBack path nodes (plan { nodes } sectionId policies)) :
    ∃ nodes', Syntax.read path
        (Text.weave (textAt (plan { nodes } sectionId policies)) 0 code) = .ok nodes' ∧
      Faithful (plan { nodes } sectionId policies) nodes nodes' := by
  obtain ⟨nodes', hread', halike⟩ := (hback hids).exists_read
  rw [textOf_withHooks mem_list_of_mem_plan, textOf_of_read hread] at hread'
  exact ⟨nodes', hread', faithful_of_alike halike⟩

end Hook

end UiHarness
