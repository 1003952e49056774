import UiHarness.Syntax.Node

/-!
# The elements of a file

The nodes of a file are visited in document order, each with its place: a node comes before the
nodes inside it, and these come before what stands behind it.  The elements among them are the
elements of the file.  So an element comes before the elements inside it, whether they stand in its
content, in the code of an attribute, or in its type arguments.  Places are counted in bytes of
UTF-8; lines end at line feeds only.

* `Place`: a position in a file, with its line and its column.
* `Node.stop`: the place behind a node.
* `Spot`: a node at its place, and `Spot.parts`, the nodes inside it.
* `walk`: the nodes in document order, visited with a stack.
* `Element`: what is known of an element at its place.
* `Element.list`: the elements of a file.
-/

namespace UiHarness.Syntax

/-! ## 1.  Places -/

/-- A position in a file. -/
structure Place where
  /-- The number of bytes before it. -/
  offset : Nat := 0
  /-- The number of line feeds before it. -/
  line : Nat := 0
  /-- The number of bytes between the last of these line feeds and it. -/
  column : Nat := 0
  deriving DecidableEq, Repr

/-- The place behind a character. -/
def Place.step (p : Place) (c : Char) : Place :=
  if c = '\n' then ⟨p.offset + 1, p.line + 1, 0⟩
  else ⟨p.offset + c.utf8Size, p.line, p.column + c.utf8Size⟩

/-- The place behind a text. -/
def Place.behind (p : Place) (t : Text) : Place := t.foldl Place.step p

@[simp] theorem Place.behind_nil (p : Place) : p.behind [] = p := rfl

@[simp] theorem Place.behind_append (p : Place) (s t : Text) :
    p.behind (s ++ t) = (p.behind s).behind t := by
  simp [Place.behind]

theorem Place.offset_step (p : Place) (c : Char) :
    (p.step c).offset = p.offset + c.utf8Size := by
  unfold Place.step
  by_cases h : c = '\n'
  · simp only [h, if_true]
    rfl
  · simp only [h, if_false]

/-- Offsets count bytes. -/
theorem Place.offset_behind (p : Place) (t : Text) :
    (p.behind t).offset = p.offset + Text.byteSize t := by
  induction t generalizing p with
  | nil => simp
  | cons c t ih =>
    have h := ih (p.step c)
    simp only [Place.behind, List.foldl_cons] at h ⊢
    rw [h, Place.offset_step, Text.byteSize_cons, Nat.add_assoc]

namespace Node

mutual

/-- The place behind a node that starts at a place. -/
def stop (p : Place) : Node → Place
  | token t => p.behind t
  | importStatement t _ => p.behind t
  | attr name link quoted code => stopOf (p.behind (name ++ link ++ quoted.getD [])) code
  | element lead name types attributes content closing =>
    let named := p.behind ('<' :: lead ++ (name.map TagName.text).getD [])
    let tag := (stopOf (stopOf named types) attributes).behind (tagEnd closing)
    (stopOf tag content).behind (closing.getD [])

/-- The place behind a list of nodes that starts at a place. -/
def stopOf (p : Place) : List Node → Place
  | [] => p
  | n :: ns => stopOf (stop p n) ns

end

mutual

/-- The place behind a node is the one behind its text. -/
theorem stop_eq (p : Place) (n : Node) : n.stop p = p.behind n.text := by
  match n with
  | token t => simp [stop]
  | importStatement t bs => simp [stop]
  | attr name link quoted code => simp [stop, stopOf_eq]
  | element lead name types attributes content closing =>
    simp only [stop, stopOf_eq, text_element, Place.behind_append]

/-- The place behind a list of nodes is the one behind their text. -/
theorem stopOf_eq (p : Place) (ns : List Node) : stopOf p ns = p.behind (textOf ns) := by
  match ns with
  | [] => simp [stopOf]
  | n :: ns => simp [stopOf, stop_eq p n, stopOf_eq _ ns]

end

end Node

/-! ## 2.  The walk -/

namespace Node

/-- The place behind the name in an opening tag that begins at a place. -/
def named (p : Place) (lead : Text) (name : Option TagName) : Place :=
  p.behind ('<' :: lead ++ (name.map TagName.text).getD [])

/-- The place behind the name and the type arguments in an opening tag. -/
def head (p : Place) (lead : Text) (name : Option TagName) (types : List Node) : Place :=
  stopOf (named p lead name) types

/-- The place behind an opening tag with a head and attributes. -/
def tagStop (head : Place) (attributes : List Node) (closing : Option Text) : Place :=
  (stopOf head attributes).behind (tagEnd closing)

mutual

/-- The number of nodes that a node is made of, itself among them. -/
def count : Node → Nat
  | token _ => 1
  | importStatement _ _ => 1
  | attr _ _ _ code => countOf code + 1
  | element _ _ types attributes content _ =>
    countOf types + (countOf attributes + countOf content) + 1

/-- The number of nodes that a list of nodes is made of. -/
def countOf : List Node → Nat
  | [] => 0
  | n :: ns => count n + countOf ns

end

end Node

/-- A node and the place where it starts. -/
structure Spot where
  place : Place
  node : Node

namespace Spot

/-- The nodes of a list that starts at a place. -/
def along (p : Place) : List Node → List Spot
  | [] => []
  | n :: ns => ⟨p, n⟩ :: along (n.stop p) ns

/-- The nodes inside a node, in order. -/
def parts : Spot → List Spot
  | ⟨_, .token _⟩ => []
  | ⟨_, .importStatement _ _⟩ => []
  | ⟨p, .attr name link quoted code⟩ => along (p.behind (name ++ link ++ quoted.getD [])) code
  | ⟨p, .element lead name types attributes content closing⟩ =>
    let head := Node.head p lead name types
    along (Node.named p lead name) types ++
      (along head attributes ++ along (Node.tagStop head attributes closing) content)

/-- The number of nodes that are visited from a stack. -/
def load : List Spot → Nat
  | [] => 0
  | s :: stack => s.node.count + load stack

/-- Puts nodes onto a stack, the last one first. -/
def push (stack parts : List Spot) : List Spot :=
  parts.reverse.foldl (fun stack part => part :: stack) stack

/-- The first one of the nodes is on the top of the stack. -/
theorem push_eq (stack parts : List Spot) : push stack parts = parts ++ stack := by
  rw [push, List.foldl_reverse, List.foldr_cons_eq_append, List.map_id']

theorem load_append (stack stack' : List Spot) :
    load (stack ++ stack') = load stack + load stack' := by
  induction stack with
  | nil => rw [List.nil_append, load, Nat.zero_add]
  | cons s stack ih => rw [List.cons_append, load, load, ih, Nat.add_assoc]

theorem load_along (p : Place) (ns : List Node) : load (along p ns) = Node.countOf ns := by
  induction ns generalizing p with
  | nil => rfl
  | cons n ns ih => rw [along, load, ih, Node.countOf]

/-- A node is one more than those inside it. -/
theorem load_parts (s : Spot) : load s.parts + 1 = s.node.count := by
  obtain ⟨p, n⟩ := s
  cases n with
  | token t => rfl
  | importStatement t bs => rfl
  | attr name link quoted code => rw [parts, load_along, Node.count]
  | element lead name types attributes content closing =>
    rw [parts, load_append, load_append, load_along, load_along, load_along, Node.count]

end Spot

/-- Visits the nodes on a stack, the top one first: a node leaves the stack when it is visited, and
the nodes inside it are put onto the stack. -/
def walk : List Spot → List Spot
  | [] => []
  | s :: stack => s :: walk (Spot.push stack s.parts)
termination_by stack => Spot.load stack
decreasing_by
  have := Spot.load_parts s
  rw [Spot.push_eq, Spot.load_append, Spot.load]
  omega

/-! ## 3.  Elements -/

/-- An attribute of an element. -/
structure Attribute where
  /-- The name, as it is written. -/
  name : Text
  /-- The value without its quotes, if it is a string. -/
  value : Option Text
  /-- The whole attribute, as it is written. -/
  text : Text
  deriving DecidableEq, Repr

/-- The attribute that a node is. -/
def Attribute.ofNode? : Node → Option Attribute
  | .attr name link quoted code =>
    some {
      name
      value := quoted.map fun q => q.tail.dropLast
      text := (Node.attr name link quoted code).text }
  | _ => none

/-- An element of a file. -/
structure Element where
  /-- Where it begins. -/
  start : Place
  /-- Where it ends. -/
  stop : Place
  /-- The name in its opening tag. -/
  name : Option TagName
  /-- The end of the name and of the type arguments behind it. -/
  head : Place
  /-- Its attributes. -/
  attributes : List Attribute
  /-- Whether it consists of one tag that closes itself. -/
  closesItself : Bool
  deriving DecidableEq, Repr

namespace Element

/-- The element whose opening tag begins at a place. -/
def ofTag (p : Place) (lead : Text) (name : Option TagName)
    (types attributes content : List Node) (closing : Option Text) : Element :=
  let head := Node.head p lead name types
  { start := p
    stop := (Node.stopOf (Node.tagStop head attributes closing) content).behind (closing.getD [])
    name
    head
    attributes := attributes.filterMap Attribute.ofNode?
    closesItself := closing.isNone }

/-- The element that a node is. -/
def ofSpot? : Spot → Option Element
  | ⟨p, .element lead name types attributes content closing⟩ =>
    some (ofTag p lead name types attributes content closing)
  | _ => none

/-- The elements of a file. -/
def list (nodes : List Node) : List Element := (walk (Spot.along {} nodes)).filterMap ofSpot?

/-- The component that an element's name refers to. -/
def component? (e : Element) : Option Text := e.name.bind TagName.component?

/-- The first attribute of a name. -/
def attribute? (e : Element) (name : Text) : Option Attribute :=
  e.attributes.find? (·.name = name)

/-- Whether an element has an attribute of a name. -/
def hasAttribute (e : Element) (name : Text) : Bool := (e.attribute? name).isSome

/-- The string that is the value of the first attribute of a name. -/
def stringAttribute? (e : Element) (name : Text) : Option Text :=
  (e.attribute? name).bind Attribute.value

/-- Where an attribute can be put in front of the others; a fragment can have none. -/
def room? (e : Element) : Option Nat := e.name.map fun _ => e.head.offset

/-- An element with a name has a place for attributes. -/
theorem room?_of_name {e : Element} (h : e.name.isSome = true) : e.room? = some e.head.offset := by
  obtain ⟨name, hname⟩ := Option.isSome_iff_exists.1 h
  rw [room?, hname, Option.map_some]

end Element

end UiHarness.Syntax
