import UiHarness.Syntax.Element

/-!
# The walk through a file

The nodes of a file are visited with a stack, on which those wait that are still to be visited.
What comes of it is the recursive traversal: each node, followed by the traversals of the nodes
inside it.  The traversal has the shape of the nodes, so it is what proofs go by.

* `Spot.preorder`, `Spot.preorderOf`: the recursive traversal of a node and of a list of nodes.
* `walk_eq`: from any stack the walk comes to the traversals of the nodes on it, one after another.
* `Spot.infix_preorderOf`: the nodes inside a node directly follow it.
* `Element.ofNode`, `Element.listFrom`: the elements in a traversal, with an equation for each form
  of nodes.
* `Element.list_eq`: the elements of a file are those in its traversal.
-/

namespace UiHarness.Syntax

/-! ## 1.  The traversal -/

namespace Spot

mutual

/-- A node at a place, and then all nodes inside it. -/
def preorder (p : Place) : Node → List Spot
  | .token t => [⟨p, .token t⟩]
  | .importStatement t bs => [⟨p, .importStatement t bs⟩]
  | .attr name link quoted code =>
    ⟨p, .attr name link quoted code⟩ :: preorderOf (p.behind (name ++ link ++ quoted.getD [])) code
  | .element lead name types attributes content closing =>
    let head := Node.head p lead name types
    ⟨p, .element lead name types attributes content closing⟩ ::
      (preorderOf (Node.named p lead name) types ++
        (preorderOf head attributes ++ preorderOf (Node.tagStop head attributes closing) content))

/-- The nodes of a list that starts at a place, each with all nodes inside it. -/
def preorderOf (p : Place) : List Node → List Spot
  | [] => []
  | n :: ns => preorder p n ++ preorderOf (n.stop p) ns

end

/-- The traversal of a node at its place. -/
def traversal (s : Spot) : List Spot := preorder s.place s.node

theorem preorderOf_eq (p : Place) (ns : List Node) :
    preorderOf p ns = (along p ns).flatMap traversal := by
  induction ns generalizing p with
  | nil => rw [preorderOf, along, List.flatMap_nil]
  | cons n ns ih => rw [preorderOf, along, List.flatMap_cons, ih, traversal]

/-- A traversal comes to the node, and then to the traversals of its parts. -/
theorem traversal_eq (s : Spot) : s.traversal = s :: s.parts.flatMap traversal := by
  obtain ⟨p, n⟩ := s
  cases n with
  | token t => rw [traversal, preorder, parts, List.flatMap_nil]
  | importStatement t bs => rw [traversal, preorder, parts, List.flatMap_nil]
  | attr name link quoted code => rw [traversal, preorder, parts, preorderOf_eq]
  | element lead name types attributes content closing =>
    rw [traversal, preorder, parts, List.flatMap_append, List.flatMap_append, preorderOf_eq,
      preorderOf_eq, preorderOf_eq]

end Spot

/-- **The walk comes to the traversals of the nodes on the stack**, from the top on. -/
theorem walk_eq (stack : List Spot) : walk stack = stack.flatMap Spot.traversal := by
  induction stack using walk.induct with
  | case1 => rw [walk, List.flatMap_nil]
  | case2 s stack ih =>
    rw [walk, ih, Spot.push_eq, List.flatMap_append, List.flatMap_cons, Spot.traversal_eq s,
      List.cons_append]

/-- The walk along a list of nodes is its traversal. -/
theorem walk_along (p : Place) (ns : List Node) :
    walk (Spot.along p ns) = Spot.preorderOf p ns := by
  rw [walk_eq, Spot.preorderOf_eq]

/-- Each node is visited once. -/
theorem length_walk (stack : List Spot) : (walk stack).length = Spot.load stack := by
  induction stack using walk.induct with
  | case1 => rw [walk, Spot.load, List.length_nil]
  | case2 s stack ih =>
    rw [walk, List.length_cons, ih, Spot.push_eq, Spot.load_append, Spot.load,
      ← Spot.load_parts s]
    omega

namespace Spot

mutual

/-- The nodes inside a node that is visited directly follow it. -/
theorem infix_preorder (p : Place) (n : Node) {s : Spot} (hs : s ∈ preorder p n) :
    s.traversal <:+: preorder p n := by
  match n with
  | .token t =>
    rw [preorder] at hs
    obtain rfl := List.mem_singleton.1 hs
    exact List.infix_refl _
  | .importStatement t bs =>
    rw [preorder] at hs
    obtain rfl := List.mem_singleton.1 hs
    exact List.infix_refl _
  | .attr name link quoted code =>
    rw [preorder] at hs
    rcases List.mem_cons.1 hs with rfl | hs
    · exact List.infix_refl _
    · rw [preorder]
      exact List.infix_cons (infix_preorderOf _ code hs)
  | .element lead name types attributes content closing =>
    rw [preorder] at hs
    rcases List.mem_cons.1 hs with rfl | hs
    · exact List.infix_refl _
    · rw [preorder]
      refine List.infix_cons ?_
      rw [List.mem_append, List.mem_append] at hs
      rcases hs with hs | hs | hs
      · exact (infix_preorderOf _ types hs).trans (List.prefix_append _ _).isInfix
      · exact ((infix_preorderOf _ attributes hs).trans (List.prefix_append _ _).isInfix).trans
          (List.suffix_append _ _).isInfix
      · exact ((infix_preorderOf _ content hs).trans (List.suffix_append _ _).isInfix).trans
          (List.suffix_append _ _).isInfix

/-- The nodes inside a node that is visited directly follow it. -/
theorem infix_preorderOf (p : Place) (ns : List Node) {s : Spot} (hs : s ∈ preorderOf p ns) :
    s.traversal <:+: preorderOf p ns := by
  match ns with
  | [] => rw [preorderOf] at hs; cases hs
  | n :: ns =>
    rw [preorderOf, List.mem_append] at hs
    rw [preorderOf]
    rcases hs with hs | hs
    · exact (infix_preorder p n hs).trans (List.prefix_append _ _).isInfix
    · exact (infix_preorderOf _ ns hs).trans (List.suffix_append _ _).isInfix

end

end Spot

/-! ## 2.  The elements in a traversal -/

namespace Element

/-- The elements of a node that starts at a place. -/
def ofNode (p : Place) (n : Node) : List Element := (Spot.preorder p n).filterMap ofSpot?

/-- The elements of a list of nodes that starts at a place. -/
def listFrom (p : Place) (ns : List Node) : List Element := (Spot.preorderOf p ns).filterMap ofSpot?

@[simp] theorem ofNode_token (p : Place) (t : Text) : ofNode p (.token t) = [] := by
  rw [ofNode, Spot.preorder]
  rfl

@[simp] theorem ofNode_importStatement (p : Place) (t : Text) (bs : List Binding) :
    ofNode p (.importStatement t bs) = [] := by
  rw [ofNode, Spot.preorder]
  rfl

theorem ofNode_attr (p : Place) (name link : Text) (quoted : Option Text) (code : List Node) :
    ofNode p (.attr name link quoted code) =
      listFrom (p.behind (name ++ link ++ quoted.getD [])) code := by
  rw [ofNode, Spot.preorder, List.filterMap_cons, listFrom]
  rfl

/-- The elements of an element are itself, those in its type arguments, those in its attributes, and
those in its content. -/
theorem ofNode_element (p : Place) (lead : Text) (name : Option TagName)
    (types attributes content : List Node) (closing : Option Text) :
    ofNode p (.element lead name types attributes content closing) =
      ofTag p lead name types attributes content closing ::
        (listFrom (Node.named p lead name) types ++
          (listFrom (Node.head p lead name types) attributes ++
            listFrom (Node.tagStop (Node.head p lead name types) attributes closing) content)) := by
  rw [ofNode, Spot.preorder, List.filterMap_cons, List.filterMap_append, List.filterMap_append]
  rfl

@[simp] theorem listFrom_nil (p : Place) : listFrom p [] = [] := by
  rw [listFrom, Spot.preorderOf, List.filterMap_nil]

theorem listFrom_cons (p : Place) (n : Node) (ns : List Node) :
    listFrom p (n :: ns) = ofNode p n ++ listFrom (n.stop p) ns := by
  rw [listFrom, Spot.preorderOf, List.filterMap_append, ofNode, listFrom]

/-- **The elements of a file** are those in its traversal. -/
theorem list_eq (nodes : List Node) : list nodes = listFrom {} nodes := by
  rw [list, walk_along, listFrom]

end Element

end UiHarness.Syntax
