import UiHarness.Proofs.Steps
import UiHarness.Proofs.Syntax.Order
import UiHarness.Syntax.File

/-!
# What the walk comes to

All that is known of the walk through a file, for any nodes: that it ends with each node visited
once, that it is the recursive traversal, and how the elements among the nodes follow each other.

The order of the elements is that of their beginnings.  It is not that of the places at which
attributes are put in: an element in the type arguments of another one is visited after it, and the
place for its attributes comes before the place behind these type arguments (`rooms_out_of_order`).
Everywhere else the two orders agree.

* `Orderly`: the statements, one by one.
* `orderly`: they hold of all files.
-/

namespace UiHarness.Syntax

open Element

/-- What is known of the walk through a file, and of the elements that it comes to. -/
structure Orderly (nodes : List Node) : Prop where
  /-- The walk comes to an end, and is the recursive traversal. -/
  walked : walk (Spot.along {} nodes) = Spot.preorderOf {} nodes
  /-- There are as many visits as nodes. -/
  visits : (walk (Spot.along {} nodes)).length = Node.countOf nodes
  /-- The elements of the file are those among the nodes, in the same order. -/
  elements : list nodes = (Spot.preorderOf {} nodes).filterMap ofSpot?
  /-- No element comes twice. -/
  once : (list nodes).Nodup
  /-- The elements come in the order of their beginnings. -/
  starts : (list nodes).Pairwise fun a b => a.start.offset < b.start.offset
  /-- An element is directly followed by all elements in its tag and its content, and contains
  them. -/
  outer : ∀ s ∈ Spot.preorderOf {} nodes, ∀ a ∈ ofSpot? s,
    a :: among s.parts <:+: list nodes ∧
      ∀ b ∈ among s.parts, a.start.offset < b.start.offset ∧ b.stop.offset ≤ a.stop.offset
  /-- Of two elements the second one is inside the first one, with its whole span, or begins behind
  its end. -/
  spans : (list nodes).Pairwise fun a b =>
    Inside (Spot.preorderOf {} nodes) a b ∧ b.stop.offset ≤ a.stop.offset ∨
      ¬ Inside (Spot.preorderOf {} nodes) a b ∧ a.stop.offset ≤ b.start.offset
  /-- The places for further attributes differ. -/
  apart : (list nodes).Pairwise fun a b => ∀ i ∈ a.room?, ∀ j ∈ b.room?, i ≠ j
  /-- They come in the order of the elements, but for elements in the type arguments of others:
  their places come first. -/
  rooms : (list nodes).Pairwise fun a b => ∀ i ∈ a.room?, ∀ j ∈ b.room?,
    (InTypes (Spot.preorderOf {} nodes) a b → j < i) ∧
      (¬ InTypes (Spot.preorderOf {} nodes) a b → i < j)

/-- The place for further attributes is the head. -/
theorem Element.eq_head_of_mem_room? {e : Element} {i : Nat} (h : i ∈ e.room?) :
    i = e.head.offset := by
  obtain ⟨name, -, rfl⟩ := Option.map_eq_some_iff.1 h
  rfl

/-- The elements inside an element directly follow it. -/
theorem Element.infix_list {nodes : List Node} {s : Spot}
    (hs : s ∈ Spot.preorderOf {} nodes) {a : Element} (ha : ofSpot? s = some a) :
    a :: among s.parts <:+: list nodes := by
  have hinfix := (Spot.infix_preorderOf {} nodes hs).filterMap ofSpot?
  rw [Spot.traversal_eq, List.filterMap_cons_some ha, ← walk_eq] at hinfix
  rw [list_eq]
  exact hinfix

/-- **The walk through a file and its elements**, whatever the file is. -/
theorem orderly (nodes : List Node) : Orderly nodes where
  walked := walk_along {} nodes
  visits := by rw [length_walk, Spot.load_along]
  elements := list_eq nodes
  once := by
    refine (pairwise_start_list nodes).imp fun {a b} hab (heq : a = b) => ?_
    exact Nat.ne_of_lt hab (congrArg (·.start.offset) heq)
  starts := pairwise_start_list nodes
  outer s hs a ha := ⟨infix_list hs ha, fun b hb => by
    have hinside : Inside (Spot.preorderOf {} nodes) a b := ⟨s, hs, ha, hb⟩
    exact hinside.bounds⟩
  spans := (precedes_list nodes).imp_of_mem fun {a b} _ hb hab => by
    have hend := bounds_of_mem_listFrom (list_eq nodes ▸ hb)
    by_cases hinside : Inside (Spot.preorderOf {} nodes) a b
    · exact .inl ⟨hinside, hinside.bounds.2⟩
    · exact .inr ⟨hinside, hab.spans.resolve_left hinside⟩
  apart := (pairwise_head_list nodes).imp fun hab i hi j hj => by
    rw [eq_head_of_mem_room? hi, eq_head_of_mem_room? hj]
    exact hab
  rooms := (precedes_list nodes).imp_of_mem fun {a b} _ hb hab i hi j hj => by
    have hhead := bounds_of_mem_listFrom (list_eq nodes ▸ hb)
    rw [eq_head_of_mem_room? hi, eq_head_of_mem_room? hj]
    refine ⟨fun htypes => ?_, fun htypes => ?_⟩
    · have := htypes.stop_le
      omega
    · have := hab.heads.resolve_left htypes
      omega

/-- **The places for attributes do not always come in the order of the elements**: in a file with an
element in the type arguments of another one they do not. -/
theorem rooms_out_of_order : ∃ nodes, read "a.tsx" "<A<{[<B/>]: c}>/>" = .ok nodes ∧
    (list nodes).map (fun e => (e.start.offset, e.room?)) = [(0, some 15), (5, some 7)] ∧
    ¬ (list nodes).Pairwise fun a b => ∀ i ∈ a.room?, ∀ j ∈ b.room?, i < j := by
  have h : (read "a.tsx" "<A<{[<B/>]: c}>/>").toOption.any (fun nodes =>
      (list nodes).map (fun e => (e.start.offset, e.room?)) = [(0, some 15), (5, some 7)] ∧
        ¬ (list nodes).Pairwise fun a b => ∀ i ∈ a.room?, ∀ j ∈ b.room?, i < j) = true := by
    decide +kernel
  obtain ⟨nodes, hread, hnodes⟩ := Except.exists_of_any h
  obtain ⟨hplaces, horder⟩ := of_decide_eq_true hnodes
  exact ⟨nodes, hread, hplaces, horder⟩

end UiHarness.Syntax
